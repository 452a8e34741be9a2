import YamlTidy.Diagnostic
import YamlTidy.Text.Digit
import YamlTidy.Text.Quoted

/-!
# What can be wrong with a YAML text

A `Fault` ends the reading of a text.  Most faults are *rejected* texts: there is a `Cause`, whose
wording is `Cause.message`, and mostly a mark.  The others *abort* the work at a point where no
diagnostic can be given.
-/

namespace YamlTidy
namespace Yaml

open Text

/-- A place in a text, counted from line 0 and column 0. -/
structure Mark where
  line : Nat
  column : Nat
  deriving Repr, DecidableEq, Inhabited

/-- A mark as readers count it. -/
def Mark.position (m : Mark) : Position :=
  ⟨m.line + 1, m.column + 1⟩

/-- Why a text is rejected. -/
inductive Cause where
  /-- A character that no text may hold, and its place. -/
  | unacceptable (c : Char) (place : Nat)
  | noToken (c : Char)
  | keyWithoutColon
  | sequenceNotHere
  | keyNotHere
  | valueNotHere
  | directiveName (c : Char)
  | versionDigitOrDot (c : Char)
  | versionDigit (c : Char)
  | versionDigitOrSpace (c : Char)
  | directiveSpace (c : Char)
  | directiveLineEnd (c : Char)
  | anchorName (what : String) (c : Char)
  | tagClose (c : Char)
  | tagSpace (c : Char)
  | handleOpen (what : String) (c : Char)
  | handleClose (what : String) (c : Char)
  | uriMissing (what : String) (c : Char)
  | uriEscape (what : String) (c : Char)
  | uriBytes (what : String) (reason : List Char)
  | blockIndicatorZero
  | blockIndicators (c : Char)
  | blockHeaderEnd (c : Char)
  | hexEscape (width : Nat) (c : Char)
  | unknownEscape (c : Char)
  | quotedEnd
  | quotedSeparator
  | documentStart (found : String)
  | afterDocumentEnd (found : String)
  | duplicateVersion
  | incompatibleVersion
  | duplicateHandle (handle : List Char)
  | undefinedHandle (handle : List Char)
  | blockCollectionEnd (found : String)
  | blockMappingEnd (found : String)
  | flowSequenceNext (found : String)
  | flowMappingNext (found : String)
  | nodeContent (block : Bool) (found : String)
  | undefinedAlias (name : List Char)
  | nestedTooDeeply
  | notScalar (found : String)
  | notSequence (found : String)
  | notMapping (found : String)
  | duplicateKey (key new old : List Char)
  | duplicateMerge
  | duplicateItem (key : List Char)
  | unhashableKey
  | mergeItem (found : String)
  | mergeValue (found : String)
  | orderedMapSequence (found : String)
  | orderedMapItem (found : String)
  | orderedMapLength (found : Nat)
  | pairsSequence (found : String)
  | pairsItem (found : String)
  | pairsLength (found : Nat)
  | timestamp (text : List Char)
  | unknownTag (tag : List Char)
  | base64 (reason : List Char)
  | nonAscii (reason : List Char)
  /-- A value that its tag does not allow. -/
  | unconvertible (reason : List Char)
  deriving Repr, DecidableEq

/-- What stands instead of what was expected. -/
def butFound (expected : String) (c : Char) : List Char :=
  "expected ".toList ++ expected.toList ++ ", but found ".toList ++ quote [c]

/-- A word between apostrophes. -/
def apostrophes (s : String) : List Char :=
  quote s.toList

/-- The wording of a cause. -/
def Cause.message : Cause → List Char
  | .unacceptable c place =>
      "unacceptable character #x".toList ++ hexDigits 4 c.toNat ++
        ": special characters are not allowed\n  in \"<unicode string>\", position ".toList ++
        decimal place
  | .noToken c =>
      "while scanning for the next token, found character ".toList ++ quote [c] ++
        " that cannot start any token".toList
  | .keyWithoutColon => "while scanning a simple key, could not find expected ':'".toList
  | .sequenceNotHere => "sequence entries are not allowed here".toList
  | .keyNotHere => "mapping keys are not allowed here".toList
  | .valueNotHere => "mapping values are not allowed here".toList
  | .directiveName c =>
      "while scanning a directive, ".toList ++ butFound "alphabetic or numeric character" c
  | .versionDigitOrDot c => "while scanning a directive, ".toList ++ butFound "a digit or '.'" c
  | .versionDigit c => "while scanning a directive, ".toList ++ butFound "a digit" c
  | .versionDigitOrSpace c =>
      "while scanning a directive, ".toList ++ butFound "a digit or ' '" c
  | .directiveSpace c => "while scanning a directive, ".toList ++ butFound "' '" c
  | .directiveLineEnd c =>
      "while scanning a directive, ".toList ++ butFound "a comment or a line break" c
  | .anchorName what c =>
      "while scanning an ".toList ++ what.toList ++ ", ".toList ++
        butFound "alphabetic or numeric character" c
  | .tagClose c => "while parsing a tag, expected '>' but found ".toList ++ quote [c]
  | .tagSpace c => "while scanning a tag, ".toList ++ butFound "' '" c
  | .handleOpen what c =>
      "while scanning an ".toList ++ what.toList ++ ", ".toList ++ butFound "'!'" c
  | .handleClose what c =>
      "while scanning an ".toList ++ what.toList ++ ", expected '!' but found ".toList ++
        quote [c]
  | .uriMissing what c =>
      "while parsing an ".toList ++ what.toList ++ ", ".toList ++ butFound "URI" c
  | .uriEscape what c =>
      "while scanning an ".toList ++ what.toList ++ ", ".toList ++
        butFound "URI escape sequence of 2 hexdecimal numbers" c
  | .uriBytes what reason => "while scanning an ".toList ++ what.toList ++ ", ".toList ++ reason
  | .blockIndicatorZero =>
      ("while scanning a block scalar, expected indentation indicator in the range 1-9, " ++
        "but found 0").toList
  | .blockIndicators c =>
      "while scanning a block scalar, ".toList ++ butFound "chomping or indentation indicators" c
  | .blockHeaderEnd c =>
      "while scanning a block scalar, ".toList ++ butFound "a comment or a line break" c
  | .hexEscape width c =>
      "while scanning a double-quoted scalar, expected escape sequence of ".toList ++
        decimal width ++ " hexdecimal numbers, but found ".toList ++ quote [c]
  | .unknownEscape c =>
      "while scanning a double-quoted scalar, found unknown escape character ".toList ++
        quote [c]
  | .quotedEnd => "while scanning a quoted scalar, found unexpected end of stream".toList
  | .quotedSeparator =>
      "while scanning a quoted scalar, found unexpected document separator".toList
  | .documentStart found =>
      "expected '<document start>', but found (".toList ++ apostrophes found ++ ",)".toList
  | .afterDocumentEnd found =>
      "found non-comment content after document end marker, (".toList ++ apostrophes found ++
        ",)".toList
  | .duplicateVersion => "found duplicate YAML directive".toList
  | .incompatibleVersion => "found incompatible YAML document (version 1.* is required)".toList
  | .duplicateHandle handle => "duplicate tag handle ".toList ++ quote handle
  | .undefinedHandle handle =>
      "while parsing a node, found undefined tag handle ".toList ++ quote handle
  | .blockCollectionEnd found =>
      "while parsing a block collection, expected <block end>, but found ".toList ++
        apostrophes found
  | .blockMappingEnd found =>
      "while parsing a block mapping, expected <block end>, but found ".toList ++
        apostrophes found
  | .flowSequenceNext found =>
      "while parsing a flow sequence, expected ',' or ']', but got ".toList ++ apostrophes found
  | .flowMappingNext found =>
      "while parsing a flow mapping, expected ',' or '\x7d', but got ".toList ++
        apostrophes found
  | .nodeContent block found =>
      "while parsing a ".toList ++ (if block then "block" else "flow").toList ++
        " node, expected the node content, but found ".toList ++ apostrophes found
  | .undefinedAlias name => "found undefined alias ".toList ++ quote name
  | .nestedTooDeeply => "document is nested too deeply to parse".toList
  | .notScalar found => "expected a scalar node, but found ".toList ++ found.toList
  | .notSequence found => "expected a sequence node, but found ".toList ++ found.toList
  | .notMapping found => "expected a mapping node, but found ".toList ++ found.toList
  | .duplicateKey key new old =>
      "while constructing a mapping, found duplicate key \"".toList ++ key ++
        "\" with value \"".toList ++ new ++ "\" (original value: \"".toList ++ old ++
          "\")".toList
  | .duplicateMerge =>
      "while constructing a mapping, found duplicate key \"<<\"".toList
  | .duplicateItem key =>
      "while constructing a set, found duplicate key \"".toList ++ key ++ ['"']
  | .unhashableKey => "while constructing a mapping, found unhashable key".toList
  | .mergeItem found =>
      "while constructing a mapping, expected a mapping for merging, but found ".toList ++
        found.toList
  | .mergeValue found =>
      ("while constructing a mapping, expected a mapping or list of mappings for merging, " ++
        "but found ").toList ++ found.toList
  | .orderedMapSequence found =>
      "while constructing an ordered map, expected a sequence, but found ".toList ++ found.toList
  | .orderedMapItem found =>
      "while constructing an ordered map, expected a mapping of length 1, but found ".toList ++
        found.toList
  | .orderedMapLength found =>
      "while constructing an ordered map, expected a single mapping item, but found ".toList ++
        decimal found ++ " items".toList
  | .pairsSequence found =>
      "while constructing pairs, expected a sequence, but found ".toList ++ found.toList
  | .pairsItem found =>
      "while constructing pairs, expected a mapping of length 1, but found ".toList ++
        found.toList
  | .pairsLength found =>
      "while constructing pairs, expected a single mapping item, but found ".toList ++
        decimal found ++ " items".toList
  | .timestamp text => "failed to construct timestamp from \"".toList ++ text ++ ['"']
  | .unknownTag tag => "could not determine a constructor for the tag ".toList ++ quote tag
  | .base64 reason => "failed to decode base64 data: ".toList ++ reason
  | .nonAscii reason => "failed to convert base64 data into ascii: ".toList ++ reason
  | .unconvertible reason => "cannot construct value: ".toList ++ reason

/-- Work that breaks off without a diagnostic. -/
inductive Abort where
  /-- A number with no character left to read. -/
  | emptyNumber
  /-- A piece of a number to base 60 whose place counts more than a floating-point number can. -/
  | placeTooHigh
  /-- Two comments that would have to stand in one place, as they are shown. -/
  | commentsMeet (shown : List Char)
  /-- A comment where none can be kept. -/
  | commentLost
  /-- A character code too large for a machine word. -/
  | codeTooLarge
  /-- A moment outside the years 1 to 9999. -/
  | dateOutOfRange
  /-- An ordered map with one key twice. -/
  | orderedMapKey
  /-- An ordered map written as a scalar. -/
  | orderedMapScalar
  /-- An integer of more decimal digits than may be written. -/
  | integerTooLong
  /-- A number with an exponent that is cut off in front of its point. -/
  | pointCut
  /-- The comment in the header of a block scalar that is a key, or stands in a sequence of an
  unknown tag, where comments go on lines of their own. -/
  | headerInFront
  /-- Comments for a node that has comments already. -/
  | commentsCollide
  /-- A collection as an item of a set. -/
  | setOfCollections
  /-- Nesting beyond the stack of the program, which ends with a recursion error there.  It stands
  where a bound of the model on the nesting is used up. -/
  | layoutTooDeep
  deriving Repr, DecidableEq

/-- The wording of an abort; some have none. -/
def Abort.message : Abort → List Char
  | .emptyNumber => "string index out of range".toList
  | .placeTooHigh => "int too large to convert to float".toList
  | .commentsMeet shown => "overlap in comment ".toList ++ shown
  | .commentLost => []
  | .codeTooLarge => "Python int too large to convert to C int".toList
  | .dateOutOfRange => "date value out of range".toList
  | .orderedMapKey => []
  | .orderedMapScalar => "'ScalarNode' object has no attribute 'flow_style'".toList
  | .integerTooLong => tooManyDigits none
  | .pointCut => "not enough values to unpack (expected 2, got 1)".toList
  | .headerInFront => "'str' object has no attribute 'value'".toList
  | .commentsCollide => []
  | .setOfCollections => "'SequenceNode' object has no attribute 'style'".toList
  | .layoutTooDeep => []

/-- What ends the reading of a text. -/
inductive Fault where
  | rejected (cause : Cause) (mark : Option Mark)
  | aborted (abort : Abort)
  deriving Repr, DecidableEq

/-- A text rejected at a mark. -/
def Fault.at (cause : Cause) (mark : Mark) : Fault :=
  .rejected cause (some mark)

/-- The diagnostic of a rejected text. -/
def Fault.diagnostic (cause : Cause) (mark : Option Mark) : Diagnostic :=
  ⟨cause.message, mark.map Mark.position⟩

end Yaml
end YamlTidy
