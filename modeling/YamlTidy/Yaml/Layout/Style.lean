import YamlTidy.Yaml.Layout
import YamlTidy.Yaml.Schema

/-!
# The style of a scalar

`analyze` says which styles can hold a text.  `chooseStyle` picks the style in which a scalar is
written from the style it asks for, the place where it stands, and whether its tag can be read off
the text.
-/

namespace YamlTidy
namespace Yaml

/-- The style in which a scalar is written. -/
inductive WrittenStyle where
  | plain
  | singleQuoted
  | doubleQuoted
  | literal
  | folded
  deriving Repr, DecidableEq, Inhabited

/-- Which styles can hold a text. -/
structure Analysis where
  empty : Bool := false
  /-- Whether the text has line breaks. -/
  multiline : Bool := false
  flowPlain : Bool := false
  blockPlain : Bool := false
  singleQuoted : Bool := false
  deriving Repr, DecidableEq

namespace Analysis

/-- A line break in the text of a scalar. -/
def isTextBreak (c : Char) : Bool :=
  c == '\n' || c == '\x85' || c == '\u2028' || c == '\u2029'

/-- A blank, a break or NUL. -/
def isGap (c : Char) : Bool :=
  c == '\x00' || c == ' ' || c == '\t' || c == '\r' || isTextBreak c

/-- A character that is written only as an escape. -/
def isSpecial (c : Char) : Bool :=
  let n := c.toNat
  !(c == '\n' || (0x20 ≤ n && n ≤ 0x7E) || n == 0x85 ||
    (((0xA0 ≤ n && n ≤ 0xD7FF) || (0xE000 ≤ n && n ≤ 0xFFFD) || 0x10000 ≤ n) &&
      n != 0xFEFF))

/-- A character with which no plain scalar begins. -/
def isLeadingIndicator (c : Char) : Bool :=
  "#,[]&*!|>'\"%@".toList.contains c || c == '\x7b' || c == '\x7d' || c == '\x60'

/-- A character that no plain scalar in a flow collection holds. -/
def isFlowIndicator (c : Char) : Bool :=
  c == ',' || c == '[' || c == ']' || c == '\x7b' || c == '\x7d'

/-- What keeps a text from being plain: whether it does in a flow collection, and elsewhere. -/
structure Indicators where
  flow : Bool := false
  block : Bool := false

/-- Both together. -/
def Indicators.or (a b : Indicators) : Indicators :=
  ⟨a.flow || b.flow, a.block || b.block⟩

/-- What keeps a text that begins with `c` from being plain.  `gap` tells whether a gap or the end
follows. -/
def first (c : Char) (alone gap : Bool) : Indicators :=
  if isLeadingIndicator c then ⟨true, true⟩
  else if c == '?' || c == ':' then ⟨alone, gap⟩
  else if c == '-' && gap then ⟨true, true⟩
  else {}

/-- What keeps a text from being plain behind its first character.  `gapBefore` tells whether a gap
stands in front. -/
def others (gapBefore : Bool) : List Char → Indicators
  | [] => {}
  | c :: rest =>
      let gap := match rest with
        | [] => true
        | d :: _ => isGap d
      let here : Indicators :=
        if isFlowIndicator c then ⟨true, false⟩
        else if c == ':' && gap then ⟨true, true⟩
        else if c == '#' && gapBefore then ⟨true, true⟩
        else {}
      here.or (others (isGap c) rest)

/-- What keeps a text from being plain. -/
def indicators : List Char → Indicators
  | [] => {}
  | c :: rest =>
      let marker : Indicators := match c, rest with
        | '-', '-' :: '-' :: _ => ⟨true, true⟩
        | '.', '.' :: '.' :: _ => ⟨true, true⟩
        | _, _ => {}
      let gap := match rest with
        | [] => true
        | d :: _ => isGap d
      (marker.or (first c rest.isEmpty gap)).or (others (isGap c) rest)

/-- Whether a character in `p` stands right in front of one in `q`. -/
def adjacent (p q : Char → Bool) : List Char → Bool
  | c :: d :: rest => (p c && q d) || adjacent p q (d :: rest)
  | _ => false

/-- Which styles can hold a text. -/
def ofText (s : List Char) : Analysis :=
  match s with
  | [] => { empty := true, blockPlain := true, singleQuoted := true }
  | c :: _ =>
      let last := s.getLast?.getD ' '
      let isSpace (c : Char) : Bool := c == ' '
      let edges := isSpace c || isTextBreak c || isSpace last || isTextBreak last
      let breaks := s.any isTextBreak
      let mixed := adjacent isTextBreak isSpace s || adjacent isSpace isTextBreak s
      let special := s.any isSpecial
      let found := indicators s
      let plain := !edges && !mixed && !special && !breaks
      { multiline := breaks
        flowPlain := plain && !found.flow
        blockPlain := plain && !found.block
        singleQuoted := !mixed && !special }

end Analysis

/-- Where a scalar stands. -/
structure ScalarPlace where
  inFlow : Bool
  /-- Whether it is a key on a line with its value. -/
  simpleKey : Bool

/-- Whether the tag of a plain scalar is what its text means, and whether that of a quoted scalar is
the one for texts. -/
def impliedTags (tag : Tag) (text : List Char) : Bool × Bool :=
  (tag.name == (Schema.resolve false text).name, tag.name == CoreTag.str.name)

/-- The style in which a scalar is written. -/
def chooseStyle (place : ScalarPlace) (tag : Tag) (implied : Bool) (text : List Char)
    (asked : AskedStyle) : WrittenStyle :=
  let a := Analysis.ofText text
  let quoted : WrittenStyle :=
    if asked = .any && (text.contains '\'' || text.contains '\n') then .doubleQuoted
    else if a.singleQuoted && !(place.simpleKey && a.multiline) then .singleQuoted
    else .doubleQuoted
  let block (style : WrittenStyle) : WrittenStyle :=
    if !place.inFlow && !place.simpleKey then style else quoted
  match asked with
  | .doubleQuoted => .doubleQuoted
  | .singleQuoted => quoted
  | .literal => block .literal
  | .folded => block .folded
  | _ =>
      if (implied || !tag.inSchema) && !(place.simpleKey && (a.empty || a.multiline)) &&
          (if place.inFlow then a.flowPlain else a.blockPlain) then .plain
      else quoted

end Yaml
end YamlTidy
