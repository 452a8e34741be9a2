import YamlTidy.Yaml.Fault

/-!
# Reading a text character by character

A `Cursor` is the rest of a text together with the place where it begins.  Beyond the end of a text
there are only NUL characters, which no text holds: `acceptable` says which characters it may.
-/

namespace YamlTidy
namespace Yaml

/-- The rest of a text and the place where it begins. -/
structure Cursor where
  rest : List Char
  /-- The number of characters read. -/
  index : Nat := 0
  line : Nat := 0
  column : Nat := 0
  deriving Repr, DecidableEq, Inhabited

namespace Cursor

/-- The place of a cursor. -/
def mark (c : Cursor) : Mark :=
  ⟨c.line, c.column⟩

/-- The character `k` places ahead. -/
def ahead (c : Cursor) (k : Nat) : Char :=
  c.rest.getD k '\x00'

/-- The next character. -/
def head (c : Cursor) : Char :=
  c.rest.headD '\x00'

/-- The cursor behind the next character.  A line ends at a line feed or a lone carriage return, and
a byte order mark takes no column. -/
def next (c : Cursor) : Cursor :=
  match c.rest with
  | [] => c
  | ch :: rest =>
      if ch = '\n' || (ch = '\r' && rest.head? ≠ some '\n') then
        { rest, index := c.index + 1, line := c.line + 1, column := 0 }
      else if ch = '\uFEFF' then { c with rest, index := c.index + 1 }
      else { c with rest, index := c.index + 1, column := c.column + 1 }

/-- The cursor `n` characters on. -/
def advance : Nat → Cursor → Cursor
  | 0, c => c
  | n + 1, c => advance n c.next

/-- The characters up to the first one outside `p`. -/
def run (p : Char → Bool) (c : Cursor) : List Char :=
  c.rest.takeWhile p

/-- The cursor behind the characters in `p`. -/
def skip (p : Char → Bool) (c : Cursor) : Cursor :=
  advance (c.run p).length c

/-- The cursor behind the spaces that stand before column `column`. -/
def skipSpacesTo (column : Nat) (c : Cursor) : Cursor :=
  advance (min (column - c.column) (c.run (· == ' ')).length) c

end Cursor

/-- A line break of any kind. -/
def isBreak (c : Char) : Bool :=
  c == '\n' || c == '\r' || c == '\x85' || c == '\u2028' || c == '\u2029'

/-- What ends a line or the text. -/
def endsLine (c : Char) : Bool :=
  c == '\x00' || isBreak c

/-- What ends a word: a blank, a line or the text. -/
def endsWord (c : Char) : Bool :=
  c == ' ' || c == '\t' || endsLine c

/-- What ends a header or an indicator: a space, a line or the text. -/
def endsHeader (c : Char) : Bool :=
  c == ' ' || endsLine c

/-- The break under the cursor, if any, in the form in which it is kept, and the cursor behind it.
Only the two Unicode line separators are kept as they are. -/
def Cursor.lineBreak (c : Cursor) : Option (Char × Cursor) :=
  match c.rest with
  | '\r' :: '\n' :: _ => some ('\n', c.advance 2)
  | ch :: _ =>
      if ch == '\n' || ch == '\r' || ch == '\x85' then some ('\n', c.next)
      else if ch == '\u2028' || ch == '\u2029' then some (ch, c.next)
      else none
  | [] => none

/-- The breaks under the cursor and the cursor behind them.  `between` moves on from each break. -/
def Cursor.breaksWithin (between : Cursor → Cursor) : Nat → Cursor → List Char × Cursor
  | 0, c => ([], c)
  | n + 1, c =>
      match c.lineBreak with
      | none => ([], c)
      | some (ch, c) =>
          let (more, last) := breaksWithin between n (between c)
          (ch :: more, last)

/-- The characters that a text may hold. -/
def acceptable (c : Char) : Bool :=
  let n := c.toNat
  n == 9 || n == 10 || n == 13 || (0x20 ≤ n && n ≤ 0x7E) || n == 0x85 ||
    (0xA0 ≤ n && n ≤ 0xD7FF) || (0xE000 ≤ n && n ≤ 0xFFFD) || 0x10000 ≤ n

/-- The fault of a text that holds a character it may not. -/
def unacceptable? (text : List Char) : Option Fault :=
  let place := (text.takeWhile acceptable).length
  (text[place]?).map fun c => .rejected (.unacceptable c place) none

end Yaml
end YamlTidy
