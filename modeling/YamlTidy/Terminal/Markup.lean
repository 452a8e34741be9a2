import YamlTidy.Diagnostic
import YamlTidy.Terminal.Cells
import YamlTidy.Terminal.Emoji
import YamlTidy.Terminal.Handler
import YamlTidy.Terminal.Style
import YamlTidy.Text.Quoted

/-!
# Markup

A text for the terminal may hold tags in square brackets.  An opening tag names a style; a closing
tag starts with a slash and closes the last open tag of its style, or the last open tag of all when
it names none.  A backslash in front of a tag makes it text.  Without colors nothing of the styles
shows, but faults end the showing: a closing tag that closes nothing, a handler whose parameters
cannot be read, and a color with a part that is no number.

Main definition: `plain`, the text that a text with markup shows.
-/

namespace YamlTidy
namespace Terminal

open Text

/-- Why a text with markup cannot be shown. -/
inductive MarkupFault where
  /-- A closing tag without an open tag of its style. -/
  | unmatched (tag : List Char) (position : Nat)
  /-- A closing tag without a style while no tag is open. -/
  | nothingOpen (position : Nat)
  /-- The parameters of a handler that cannot be read. -/
  | parameters (given : List Char)
  /-- What is wrong with a number in a color; it is not caught as a fault of the markup. -/
  | color (reason : List Char)
  deriving Repr, DecidableEq

/-- The wording of a fault.  For parameters only the most common wordings are told apart. -/
def MarkupFault.message : MarkupFault → List Char
  | unmatched tag position =>
      "closing tag '".toList ++ tag ++ "' at position ".toList ++ decimal position ++
        " doesn't match any open tag".toList
  | nothingOpen position =>
      "closing tag '[/]' at position ".toList ++ decimal position ++
        " has nothing to close".toList
  | parameters given =>
      let read := Handler.literals given
      "error parsing ".toList ++ quote read ++ " in ".toList ++ quote given ++ "; ".toList ++
        (if read.contains '(' && !read.contains ')' then "'(' was never closed"
          else "invalid syntax").toList
  | color reason => reason

/-- A piece of a text with markup. -/
inductive Piece where
  | plain (text : List Char)
  /-- What stands between the brackets of a tag, and where the tag begins. -/
  | tag (position : Nat) (body : List Char)
  deriving Repr, DecidableEq

/-- A character that may come first in a tag. -/
def startsTag (c : Char) : Bool :=
  ('a' ≤ c && c ≤ 'z') || c == '#' || c == '/' || c == '@'

/-- The tag that a text begins with: the number of backslashes in front of it, and what stands
between its brackets. -/
def tagAt? (s : List Char) : Option (Nat × List Char) :=
  let slashes := (s.takeWhile (· == '\\')).length
  match s.drop slashes with
  | '[' :: c :: rest =>
      if startsTag c then
        let body := rest.takeWhile fun d => d != '[' && d != ']'
        if (rest.drop body.length).head? == some ']' then some (slashes, c :: body) else none
      else none
  | _ => none

/-- The pieces that a tag with backslashes in front of it makes. -/
def tagPieces (position slashes : Nat) (body : List Char) : List Piece :=
  let literal := if slashes < 2 then [] else [Piece.plain (List.replicate (slashes / 2) '\\')]
  literal ++
    [if slashes % 2 = 0 then Piece.tag (position + slashes) body
      else Piece.plain ('[' :: body ++ [']'])]

/-- Text as a piece, unless there is none. -/
def textPiece (s : List Char) : List Piece :=
  if s.isEmpty then [] else [.plain s]

/-- The pieces of a text from a position on.  `text` stands in front of it, and `skip` characters
belong to the piece before. -/
def piecesFrom (position skip : Nat) (text : List Char) : List Char → List Piece
  | [] => textPiece text
  | c :: rest =>
      match skip with
      | n + 1 => piecesFrom (position + 1) n text rest
      | 0 =>
          match tagAt? (c :: rest) with
          | some (slashes, body) =>
              textPiece text ++ tagPieces position slashes body ++
                piecesFrom (position + 1) (slashes + body.length + 1) [] rest
          | none => piecesFrom (position + 1) 0 (text ++ [c]) rest

/-- The name of a tag: what stands in front of its equals sign. -/
def tagName (body : List Char) : List Char :=
  body.takeWhile (· != '=')

/-- What stands behind the equals sign of a tag. -/
def tagParameters? (body : List Char) : Option (List Char) :=
  match body.dropWhile (· != '=') with
  | _ :: given => some given
  | [] => none

/-- A tag that is open: the normal form of its name, and its parameters. -/
structure OpenTag where
  name : List Char
  given : Option (List Char) := none
  deriving Repr, DecidableEq

namespace OpenTag

/-- The style in which a tag is drawn, as words. -/
def words (t : OpenTag) : List Char :=
  match t.given with
  | some given => t.name ++ ' ' :: given
  | none => t.name

/-- Whether the parameters of a handler cannot be read.  Other tags are not asked. -/
def isUnreadable (t : OpenTag) : Bool :=
  t.name.head? == some '@' && (t.given.any fun given => !Handler.canBeRead given)

end OpenTag

/-- The first of some open tags that has a name, and the others, if there is one. -/
def withoutTag? (name : List Char) : List OpenTag → Option (OpenTag × List OpenTag)
  | [] => none
  | t :: more =>
      if t.name = name then some (t, more)
      else (withoutTag? name more).map fun (found, others) => (found, t :: others)

/-- The normal form of a tag's name. -/
def normalName (name : List Char) : Except MarkupFault (List Char) :=
  (Style.normal name).mapError .color

/-- The tags that are open behind a closed one. -/
def closed (t : OpenTag) (more : List OpenTag) : Except MarkupFault (List OpenTag) :=
  if t.isUnreadable then .error (.parameters (t.given.getD [])) else .ok more

/-- The tags that are open behind a tag. -/
def openBehind (open_ : List OpenTag) (position : Nat) (body : List Char) :
    Except MarkupFault (List OpenTag) :=
  match tagName body with
  | '/' :: rest =>
      let name := strip rest
      if name.isEmpty then
        match open_ with
        | t :: more => closed t more
        | [] => .error (.nothingOpen position)
      else do
        match withoutTag? (← normalName name) open_ with
        | some (t, more) => closed t more
        | none => .error (.unmatched ('[' :: body ++ [']']) position)
  | name => do pure (⟨← normalName name, tagParameters? body⟩ :: open_)

/-- A backslash in front of a bracket that opens no tag is left out. -/
def unescaped : List Char → List Char
  | [] => []
  | '\\' :: '[' :: rest => '[' :: unescaped rest
  | c :: rest => c :: unescaped rest

/-- What some pieces show while tags are open. -/
def shownFrom (open_ : List OpenTag) : List Piece → Except MarkupFault (List Char)
  | [] => .ok []
  | .plain s :: rest => (shownFrom open_ rest).map (audible (emojify (unescaped s)) ++ ·)
  | .tag position body :: rest =>
      match openBehind open_ position body with
      | .error fault => .error fault
      | .ok now => shownFrom now rest

/-- Looks up the styles of the tags among some pieces, in which the text is drawn. -/
def drawn : List Piece → Except MarkupFault Unit
  | [] => .ok ()
  | .plain _ :: rest => drawn rest
  | .tag _ body :: rest => do
      if body.head? != some '/' then
        let t : OpenTag := ⟨← normalName (tagName body), tagParameters? body⟩
        let _ ← (Style.ofText t.words).mapError MarkupFault.color
      drawn rest

/-- The text that a text with markup shows. -/
def plain (s : List Char) : Except MarkupFault (List Char) := do
  let pieces := piecesFrom 0 0 [] s
  let text ← shownFrom [] pieces
  drawn pieces
  pure text

end Terminal
end YamlTidy
