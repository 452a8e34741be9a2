import YamlTidy.Yaml.Token.Gap
import YamlTidy.Yaml.Token.Plain

/-!
# Block scalars

A block scalar has a header with a chomping and an indentation indicator and then lines indented to
one column.  A literal keeps its breaks; a folded one turns a single break between two lines that do
not begin with a blank into a space.  What follows the last line and is not part of the text is kept
as a comment behind the scalar.
-/

namespace YamlTidy
namespace Yaml

/-- What becomes of the breaks at the end of a block scalar. -/
inductive Chomping where
  | clip
  | strip
  | keep
  deriving Repr, DecidableEq

/-- The chomping that an indicator asks for. -/
def chomping? (c : Char) : Option Chomping :=
  if c == '+' then some .keep else if c == '-' then some .strip else none

/-- The indentation indicator under the cursor, if there is one. -/
def Cursor.blockIncrement (c : Cursor) : Except Fault (Option Nat × Cursor) :=
  if '0' ≤ c.head && c.head ≤ '9' then
    if c.head == '0' then .error (.at .blockIndicatorZero c.mark)
    else .ok (some (c.head.toNat - 48), c.next)
  else .ok (none, c)

/-- The indicators of a block scalar's header, in either order. -/
def Cursor.blockIndicators (c : Cursor) : Except Fault (Chomping × Option Nat × Cursor) := do
  let (chomping, increment, c) ←
    match chomping? c.head with
    | some chomping => do
        let (increment, c) ← c.next.blockIncrement
        pure (chomping, increment, c)
    | none => do
        let (increment, c) ← c.blockIncrement
        match increment, chomping? c.head with
        | some _, some chomping => pure (chomping, increment, c.next)
        | _, _ => pure (Chomping.clip, increment, c)
  if endsHeader c.head then .ok (chomping, increment, c)
  else .error (.at (.blockIndicators c.head) c.mark)

/-- The end of a block scalar's header: the comment in it, if there is one, and the line behind. -/
def Cursor.blockHeaderEnd (c : Cursor) : Except Fault (Option (List Char) × Cursor) :=
  let blanks := c.run (· == ' ')
  let c := c.advance blanks.length
  let text := if c.head == '#' then c.run (fun ch => !endsLine ch) else []
  let c := c.advance text.length
  if !endsLine c.head then .error (.at (.blockHeaderEnd c.head) c.mark)
  else
    let c := match c.lineBreak with
      | some (_, c) => c
      | none => c
    .ok (if text.isEmpty then none else some (blanks ++ text), c)

/-- The blank lines in front of a block scalar's first line: their breaks, the deepest column
reached, the end of the last break, and where the line begins. -/
def Cursor.blockIndentation : Nat → Cursor → Nat → Mark → List Char × Nat × Mark × Cursor
  | 0, c, deepest, last => ([], deepest, last, c)
  | n + 1, c, deepest, last =>
      if c.head == ' ' then blockIndentation n c.next (max deepest c.next.column) last
      else
        match c.lineBreak with
        | none => ([], deepest, last, c)
        | some (ch, c) =>
            let (more, rest) := blockIndentation n c deepest c.mark
            (ch :: more, rest)

/-- The blank lines between the lines of a block scalar: their breaks, the end of the last one, and
where the next line begins. -/
def Cursor.blockBreaks (indent : Nat) : Nat → Cursor → List Char × Mark × Cursor
  | 0, c => ([], c.mark, c)
  | n + 1, c =>
      let start := c.skipSpacesTo indent
      match start.lineBreak with
      | none => ([], c.mark, start)
      | some (ch, c) =>
          let (more, last, c) := blockBreaks indent n c
          (ch :: more, last, c)

/-- The text of a block scalar as read so far. -/
structure BlockText where
  text : List Char := []
  /-- The places of the breaks that a folded text was broken at. -/
  folds : List Nat := []
  /-- The break behind the last line. -/
  lastBreak : List Char := []
  /-- The breaks behind that one. -/
  breaks : List Char
  stop : Mark
  cursor : Cursor

/-- Reads the lines of a block scalar.  `markers` tells whether a document marker ends it. -/
def BlockText.lines (folded markers : Bool) (indent : Nat) : Nat → BlockText → BlockText
  | 0, b => b
  | n + 1, b =>
      if b.cursor.column != indent || b.cursor.rest.isEmpty then b
      else
        let blankStart := b.cursor.head == ' ' || b.cursor.head == '\t'
        let line := b.cursor.run (fun ch => !endsLine ch)
        let text := b.text ++ b.breaks ++ line
        let c := b.cursor.advance line.length
        let (lastBreak, c) := match c.lineBreak with
          | some (ch, c) => ([ch], c)
          | none => ([], c)
        let (breaks, stop, c) := c.blockBreaks indent (c.rest.length + 1)
        let ended : BlockText := { b with text, lastBreak, breaks, stop, cursor := c }
        if markers && c.column == 0 && c.atMarker then ended
        else if c.column == indent && !c.rest.isEmpty then
          let folds :=
            if folded && lastBreak == ['\n'] then b.folds ++ [text.length] else b.folds
          let joint :=
            if folded && lastBreak == ['\n'] && !blankStart && c.head != ' ' &&
                c.head != '\t' then
              if breaks.isEmpty then [' '] else []
            else lastBreak
          lines folded markers indent n { ended with text := text ++ joint, folds }
        else ended

/-- The comments that follow the breaks behind a block scalar, with the spaces in front of each. -/
def trailingComments (inFlow : Bool) : Nat → Cursor → Bool → List Char × Cursor × Bool
  | 0, c, keyAllowed => ([], c, keyAllowed)
  | n + 1, c, keyAllowed =>
      let gap := c.gap inFlow keyAllowed
      match gap.comment with
      | none => ([], gap.cursor, gap.keyAllowed)
      | some comment =>
          let (more, rest) := trailingComments inFlow n gap.cursor gap.keyAllowed
          (List.replicate comment.mark.column ' ' ++ comment.text ++ more, rest)

/-- A block scalar token, the cursor behind it, and whether a simple key may follow. -/
structure BlockScalar where
  token : Token
  cursor : Cursor
  keyAllowed : Bool

/-- Reads the block scalar under the cursor.  `outer` is the column of the collection around it. -/
def Cursor.blockScalar (c : Cursor) (folded : Bool) (outer : Int) :
    Except Fault BlockScalar := do
  let start := c.mark
  let (chomping, increment, c) ← c.next.blockIndicators
  let (header, c) ← c.blockHeaderEnd
  let least := (outer + 1).toNat
  let (breaks, stop, indent, c) :=
    match increment with
    | none =>
        let (breaks, deepest, stop, c) := c.blockIndentation (c.rest.length + 1) 0 c.mark
        (breaks, stop, max least deepest, c)
    | some increment =>
        let indent := max least 1 + increment - 1
        let (breaks, stop, c) := c.blockBreaks indent (c.rest.length + 1)
        (breaks, stop, indent, c)
  let least := if increment.isNone then least else max least 1
  let b := BlockText.lines folded (least == 0) indent (c.rest.length + 1)
    { breaks, stop, cursor := c }
  let text := match chomping with
    | .strip => b.text
    | .clip => b.text ++ b.lastBreak
    | .keep => b.text ++ b.lastBreak ++ b.breaks
  let before : List Leading := header.toList.map .header
  let scalar (behind : Option Comment) : Token :=
    { kind := .scalar text (if folded then .folded else .literal) b.folds, start, stop := b.stop,
      comments := if behind.isNone && before.isEmpty then none else some { behind, before } }
  if chomping == .keep || b.breaks.isEmpty then
    .ok { token := scalar none, cursor := b.cursor, keyAllowed := true }
  else
    let (comments, c, keyAllowed) :=
      trailingComments false (b.cursor.rest.length + 1) b.cursor true
    .ok { token := scalar (some ⟨b.breaks ++ comments, b.stop⟩), cursor := c, keyAllowed }

end Yaml
end YamlTidy
