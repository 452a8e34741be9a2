import YamlTidy.Diagnostic
import YamlTidy.Text.Blank
import YamlTidy.Text.Quoted
import YamlTidy.Yaml.Layout.Style

/-!
# Writing with a pen

A `Pen` is what has been written so far together with what matters for what comes next: the column,
and whether the line so far is blank, is only indentation, or ends in a mark behind which no line
has to be begun.  Scalars are written here; a line that gets too long is broken at spaces.
-/

namespace YamlTidy
namespace Yaml

/-- The measures of a layout. -/
structure Measures where
  /-- Columns per level of mappings, and in front of the dash of an item. -/
  step : Int
  /-- The column behind which lines are broken, if any. -/
  width : Option Int
  deriving Repr, DecidableEq

/-- Whether a column is too far to the right. -/
def Measures.exceeds (m : Measures) (column : Int) : Bool :=
  match m.width with
  | none => false
  | some w => w < column

/-- What has been written, and how writing may go on. -/
structure Pen where
  /-- What has been written, the last character first. -/
  done : List Char := []
  column : Int := 0
  /-- Whether a mark may follow without a space in between. -/
  whitespace : Bool := true
  /-- Whether the line so far is indentation and dashes. -/
  indention : Bool := true
  /-- Whether the next line break is left out. -/
  noNewline : Bool := false
  /-- Whether the end of the document must be marked. -/
  openEnded : Bool := false
  deriving Repr, DecidableEq

namespace Pen

/-- Writes a text that takes no columns. -/
def put (s : List Char) (p : Pen) : Pen :=
  { p with done := s.reverse ++ p.done }

/-- Writes a text. -/
def write (s : List Char) (p : Pen) : Pen :=
  { p with done := s.reverse ++ p.done, column := p.column + s.length }

/-- Writes a mark, with a space in front when one is needed. -/
def mark (s : List Char) (apart whitespace indention : Bool) (p : Pen) : Pen :=
  let s := if p.whitespace || !apart then s else ' ' :: s
  { p.write s with whitespace, indention := p.indention && indention, openEnded := false }

/-- Ends the line with the given break. -/
def breakWith (c : Char) (p : Pen) : Pen :=
  { p with done := c :: p.done, column := 0, whitespace := true, indention := true }

/-- Ends the line. -/
def newline (p : Pen) : Pen :=
  p.breakWith '\n'

/-- Goes to a column, on a new line unless there is only indentation in front of it. -/
def indentTo (indent : Option Int) (p : Pen) : Pen :=
  let column := indent.getD 0
  let p :=
    if !p.indention || column < p.column || (p.column == column && !p.whitespace) then
      if p.noNewline then { p with noNewline := false } else p.newline
    else p
  if p.column < column then
    { p.write (List.replicate (column - p.column).toNat ' ') with whitespace := true }
  else p

/-- Writes each of some breaks; only a line feed is replaced by the break in use. -/
def breaks (s : List Char) (p : Pen) : Pen :=
  s.foldl (fun p c => p.breakWith c) p

end Pen

/-- The kinds of stretches of a text. -/
inductive Stretch where
  | word
  | space
  | lineBreak
  deriving Repr, DecidableEq

/-- The kind of stretch a character belongs to. -/
def Stretch.of (c : Char) : Stretch :=
  if c == ' ' then .space else if Analysis.isTextBreak c then .lineBreak else .word

/-- The stretches of a text in order. -/
def stretches : List Char → List (Stretch × List Char)
  | [] => []
  | c :: rest =>
      let kind := Stretch.of c
      match stretches rest with
      | (k, s) :: more =>
          if k = kind then (kind, c :: s) :: more else (kind, [c]) :: (k, s) :: more
      | [] => [(kind, [c])]

namespace Pen

/-- Writes the stretches of a plain scalar. -/
def plainStretches (m : Measures) (indent : Option Int) (split : Bool) :
    List (Stretch × List Char) → Pen → Pen
  | [], p => p
  | (kind, s) :: more, p =>
      let p :=
        if kind = .space then
          if s.length == 1 && m.exceeds p.column && split then
            { p.indentTo indent with whitespace := false, indention := false }
          else p.write s
        else
          let wrap := match indent with
            | none => false
            | some i => m.exceeds (p.column + s.length) && i < p.column
          (if wrap then p.indentTo indent else p).write s
      plainStretches m indent split more p

/-- Writes a plain scalar. -/
def plain (m : Measures) (indent : Option Int) (root split : Bool) (text : List Char)
    (p : Pen) : Pen :=
  let p := if root then { p with openEnded := true } else p
  if text.isEmpty then p
  else
    let p := if p.whitespace then p else p.write [' ']
    plainStretches m indent split (stretches text)
      { p with whitespace := false, indention := false }

/-- A text with every apostrophe twice. -/
def doubled (s : List Char) : List Char :=
  s.flatMap fun c => if c == '\'' then ['\'', '\''] else [c]

/-- Writes the stretches of a single-quoted scalar. -/
def singleStretches (m : Measures) (indent : Option Int) (split : Bool) :
    Bool → List (Stretch × List Char) → Pen → Pen
  | _, [], p => p
  | first, (kind, s) :: more, p =>
      let p := match kind with
        | .space =>
            if s.length == 1 && m.exceeds p.column && split && !first && !more.isEmpty then
              p.indentTo indent
            else p.write s
        | .lineBreak =>
            let p := if s.head? == some '\n' then p.newline else p
            (p.breaks s).indentTo indent
        | .word => p.write (doubled s)
      singleStretches m indent split false more p

/-- Writes a single-quoted scalar. -/
def singleQuoted (m : Measures) (indent : Option Int) (split : Bool) (text : List Char)
    (p : Pen) : Pen :=
  let p := p.mark ['\''] true false false
  (singleStretches m indent split true (stretches text) p).mark ['\''] false false false

/-- The letters of the escapes that have one. -/
def escapeLetters : List (Char × Char) := [
  ('\x00', '0'), ('\x07', 'a'), ('\x08', 'b'), ('\x09', 't'), ('\x0a', 'n'), ('\x0b', 'v'),
  ('\x0c', 'f'), ('\x0d', 'r'), ('\x1b', 'e'), ('"', '"'), ('\\', '\\'), ('\x85', 'N'),
  ('\xa0', '_'), ('\u2028', 'L'), ('\u2029', 'P')]

/-- A digit below 16 as a capital. -/
def capitalHex (s : List Char) : List Char :=
  s.map Char.toUpper

/-- The escape of a character. -/
def escape (c : Char) : List Char :=
  match escapeLetters.lookup c with
  | some letter => ['\\', letter]
  | none =>
      if let some code := Text.surrogate? c then
        '\\' :: 'u' :: capitalHex (Text.hexDigits 4 code)
      else if c.toNat ≤ 0xFF then '\\' :: 'x' :: capitalHex (Text.hexDigits 2 c.toNat)
      else if c.toNat ≤ 0xFFFF then '\\' :: 'u' :: capitalHex (Text.hexDigits 4 c.toNat)
      else '\\' :: 'U' :: capitalHex (Text.hexDigits 8 c.toNat)

/-- Whether a character is escaped between double quotes. -/
def isEscaped (c : Char) : Bool :=
  c == '"' || c == '\\' || c == '\x85' || c == '\u2028' || c == '\u2029' || c == '\uFEFF' ||
    c == '\n' || Analysis.isSpecial c || (Text.surrogate? c).isSome

/-- Whether a break at `place` in a double-quoted text takes a backslash: not when a space can stand
for it. -/
def needsBackslash (text : Array Char) (place : Nat) : Bool :=
  let at_ (i : Nat) : Option Char := text[i]?
  let word := (text.toList.drop place).takeWhile (· != ' ')
  let spaceFollows := place + word.length < text.size
  !(spaceFollows && !word.contains '"' && !word.contains '\'' &&
    (at_ (place + 1)).isSome && at_ (place + 1) != some ' ' &&
    !(at_ (place - 1) == some ' ' && at_ place == some ' '))

/-- Writes a double-quoted text from `place` on.  What stands from `start` up to `place` has not
been written yet; nothing has when `start` lies behind `place`. -/
def doubleFrom (m : Measures) (indent : Option Int) (split : Bool) (text : Array Char) :
    Nat → Nat → Nat → Pen → Pen
  | 0, _, _, p => p
  | n + 1, start, place, p =>
      let held (start : Nat) : List Char := (text.toList.drop start).take (place - start)
      match text[place]? with
      | none => p.write (held start)
      | some c =>
          let (start, p) :=
            if isEscaped c then (place + 1, (p.write (held start)).write (escape c))
            else (start, p)
          let ahead : Int := (place : Int) - start
          let (start, p) :=
            if 0 < place && place + 1 < text.size && (c == ' ' || place ≤ start) &&
                m.exceeds (p.column + ahead) && split then
              let backslash := needsBackslash text place
              let slash := if backslash then ['\\'] else []
              let p := p.write (held start ++ slash)
              let start := max start place
              let p := { p.indentTo indent with whitespace := false, indention := false }
              if text[start]? == some ' ' then
                (if backslash then start else start + 1, p.write slash)
              else (start, p)
            else (start, p)
          doubleFrom m indent split text n start (place + 1) p

/-- Writes a double-quoted scalar. -/
def doubleQuoted (m : Measures) (indent : Option Int) (split : Bool) (text : List Char)
    (p : Pen) : Pen :=
  let p := p.mark ['"'] true false false
  (doubleFrom m indent split text.toArray (text.length + 1) 0 0 p).mark ['"'] false false false

/-- Whether a document marker stands at the beginning of a line behind the first. -/
def holdsMarker : List Char → Bool
  | [] => false
  | c :: rest =>
      let here := match c, rest with
        | '\n', '-' :: '-' :: '-' :: after => after.isEmpty || after.head?.any fun c =>
            c == ' ' || c == '\r' || c == '\n'
        | '\n', '.' :: '.' :: '.' :: after => after.isEmpty || after.head?.any fun c =>
            c == ' ' || c == '\r' || c == '\n'
        | _, _ => false
      here || holdsMarker rest

/-- The header of a block scalar, behind its first character: the indent that cannot be seen from
the text, and what becomes of the breaks at its end. -/
structure BlockHints where
  indicator : List Char := []
  /-- The columns by which lines at the root are moved. -/
  shift : Nat := 0
  /-- Whether all breaks at the end are kept. -/
  keep : Bool := false

/-- The hints that a text needs. -/
def blockHints (root : Bool) (text : List Char) : BlockHints :=
  match text, text.reverse with
  | c :: _, last :: others =>
      let blank := c == ' ' || Analysis.isTextBreak c
      let shift := if blank || (root && holdsMarker text) then 2 else 0
      let digit := if blank then ['2'] else []
      if !Analysis.isTextBreak last then { indicator := digit ++ ['-'], shift }
      else
        match others with
        | [] => { indicator := digit ++ ['+'], shift, keep := true }
        | before :: _ =>
            if Analysis.isTextBreak before then
              { indicator := digit ++ ['+'], shift, keep := true }
            else { indicator := digit, shift }
  | _, _ => {}

/-- Writes the header of a block scalar. -/
def blockHeader (style : Char) (hints : BlockHints) (comment : List Char) (p : Pen) : Pen :=
  let p := p.mark (style :: hints.indicator ++ comment) true false false
  (if hints.keep then { p with openEnded := true } else p).newline

/-- Writes the lines of a literal scalar.  Their text takes no columns. -/
def literalStretches (indent : Option Int) (margin : Option Nat) :
    List (Bool × List Char) → Pen → Pen
  | [], p => p
  | (isBreak, s) :: more, p =>
      let p :=
        if isBreak then
          let p := p.breaks s
          if more.isEmpty then p
          else
            match margin with
            | some n => p.put (List.replicate n ' ')
            | none => p.indentTo indent
        else
          let p := p.put s
          if more.isEmpty then p.newline else p
      literalStretches indent margin more p

/-- The lines of a text and the breaks between them, in order.  The first stretch is one of
breaks. -/
def lineStretches (text : List Char) : List (Bool × List Char) :=
  let joined : List (Bool × List Char) := (stretches text).foldr (fun (kind, s) more =>
    if kind = .lineBreak then (true, s) :: more
    else
      match more with
      | (false, t) :: more => (false, s ++ t) :: more
      | more => (false, s) :: more) []
  match joined with
  | (false, s) :: more => (true, []) :: (false, s) :: more
  | other => other

/-- Writes a literal scalar. -/
def literal (indent : Option Int) (root : Bool) (comment text : List Char) (p : Pen) : Pen :=
  let hints := blockHints root text
  let margin := if root then some (hints.shift + (indent.getD 0).toNat) else none
  literalStretches indent margin (lineStretches text) (p.blockHeader '|' hints comment)

/-- Writes a word of a folded scalar, with a new line behind each bell and the space that follows
it. -/
def foldedWord (indent : Option Int) : List Char → Pen → Pen
  | s, p =>
      let rec go : List Char → List Char → Pen → Pen
        | [], held, p => p.write held.reverse
        | c :: rest, held, p =>
            if c == '\x07' then go rest [] ((p.write held.reverse).newline.indentTo indent)
            else go rest (c :: held) p
      go s [] p

/-- A text in which a bell stands for itself and the space behind it. -/
def joinFolds : List Char → List Char
  | [] => []
  | '\x07' :: ' ' :: rest => '\x07' :: joinFolds rest
  | c :: rest => c :: joinFolds rest

/-- Writes the stretches of a folded scalar.  `more` tells whether the line before was indented
further. -/
def foldedStretches (m : Measures) (indent : Option Int) :
    Bool → List (Stretch × List Char) → Pen → Pen
  | _, [], p => p
  | leadingSpace, (kind, s) :: more, p =>
      match kind with
      | .lineBreak =>
          let spaceNext := match more with
            | (.space, _) :: _ => true
            | _ => false
          let p :=
            if !leadingSpace && !more.isEmpty && !spaceNext && s.head? == some '\n' then
              p.newline
            else p
          let p := p.breaks s
          let p := if more.isEmpty then p else p.indentTo indent
          foldedStretches m indent spaceNext more p
      | .space =>
          let p :=
            if s.length == 1 && m.exceeds p.column then p.indentTo indent else p.write s
          foldedStretches m indent leadingSpace more p
      | .word =>
          let p := foldedWord indent s p
          foldedStretches m indent leadingSpace more (if more.isEmpty then p.newline else p)

/-- Writes a folded scalar. -/
def folded (m : Measures) (indent : Option Int) (root : Bool) (comment text : List Char)
    (p : Pen) : Pen :=
  let hints := blockHints root text
  let p := p.blockHeader '>' hints comment
  let all := stretches (joinFolds text)
  let all := match all with
    | (.lineBreak, _) :: _ => all
    | [] => []
    | _ => (.lineBreak, []) :: all
  foldedStretches m indent true all p

/-- Writes a comment.  `before` says that it has lines of its own. -/
def comment (before : Bool) (c : Comment) (p : Pen) : Pen :=
  let text := if !before && c.text.getLast? == some '\n' then c.text.dropLast else c.text
  let column : Int := if c.text.head? == some '\n' then p.column else c.mark.column
  let gap := column - p.column
  let visible := text.any fun ch => !Text.isBlank ch
  let gap := if p.column != 0 && visible && gap < 1 && text.head? != some '\n' then 1 else gap
  let p := p.put (List.replicate gap.toNat ' ' ++ text)
  if before then p else p.newline

/-- Writes comments that have lines of their own. -/
def commentsBefore : List Leading → Pen → Except Abort Pen
  | [], p => .ok p
  | .header _ :: _, _ => .error .headerInFront
  | .comment c :: more, p =>
      commentsBefore more (comment true c (if p.column == 0 then p else p.newline))

/-- Writes the comment behind something and ends the line. -/
def commentBehind (c : Option Comment) (p : Pen) : Pen :=
  match c with
  | none => p
  | some c => comment false c p

end Pen
end Yaml
end YamlTidy
