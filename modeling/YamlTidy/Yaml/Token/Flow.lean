import YamlTidy.Yaml.Token.Plain

/-!
# Quoted scalars

A quoted scalar ends at its closing quote, wherever that stands.  Breaks in it fold as in plain
scalars.  Between apostrophes only a doubled apostrophe is special; between double quotes a
backslash starts an escape.
-/

namespace YamlTidy
namespace Yaml

/-- The character that a one-letter escape stands for. -/
def escaped? : Char → Option Char
  | '0' => some '\x00'
  | 'a' => some '\x07'
  | 'b' => some '\x08'
  | 't' => some '\t'
  | '\t' => some '\t'
  | 'n' => some '\n'
  | 'v' => some '\x0b'
  | 'f' => some '\x0c'
  | 'r' => some '\r'
  | 'e' => some '\x1b'
  | ' ' => some ' '
  | '"' => some '"'
  | '/' => some '/'
  | '\\' => some '\\'
  | 'N' => some '\x85'
  | '_' => some '\xa0'
  | 'L' => some '\u2028'
  | 'P' => some '\u2029'
  | _ => none

/-- The number of hexadecimal digits behind an escape letter. -/
def escapeWidth? : Char → Option Nat
  | 'x' => some 2
  | 'u' => some 4
  | 'U' => some 8
  | _ => none

/-- The value of a hexadecimal digit. -/
def hexValue? (c : Char) : Option Nat :=
  if '0' ≤ c && c ≤ '9' then some (c.toNat - 48)
  else if 'a' ≤ c && c ≤ 'f' then some (c.toNat - 87)
  else if 'A' ≤ c && c ≤ 'F' then some (c.toNat - 55)
  else none

/-- The number written by the first `width` characters, or the first of them that is no digit. -/
def hexNumber : Nat → Nat → List Char → Except Char Nat
  | 0, acc, _ => .ok acc
  | width + 1, acc, s =>
      match hexValue? (s.headD '\x00') with
      | some d => hexNumber width (acc * 16 + d) s.tail
      | none => .error (s.headD '\x00')

/-- The breaks inside a quoted scalar with the blanks around them skipped. -/
def Cursor.quotedBreaks : Nat → Cursor → Except Fault (List Char × Cursor)
  | 0, c => .ok ([], c)
  | n + 1, c =>
      if c.atMarker then .error (.at .quotedSeparator c.mark)
      else
        let c := c.skip fun ch => ch == ' ' || ch == '\t'
        match c.lineBreak with
        | none => .ok ([], c)
        | some (ch, c) => do
            let (more, c) ← quotedBreaks n c
            .ok (ch :: more, c)

/-- The blanks under the cursor as they count inside a quoted scalar. -/
def Cursor.quotedSpaces (c : Cursor) : Except Fault (List Char × Cursor) :=
  let blanks := c.run fun ch => ch == ' ' || ch == '\t'
  let c := c.advance blanks.length
  if c.rest.isEmpty then .error (.at .quotedEnd c.mark)
  else
    match c.lineBreak with
    | none => .ok (blanks, c)
    | some (ch, c) => do
        let (breaks, c) ← c.quotedBreaks (c.rest.length + 1)
        .ok (if ch != '\n' then (ch :: breaks, c) else if breaks.isEmpty then ([' '], c)
          else (breaks, c))

/-- The escape behind a backslash. -/
def Cursor.escape (c : Cursor) : Except Fault (List Char × Cursor) :=
  let ch := c.head
  match escaped? ch, escapeWidth? ch with
  | some e, _ => .ok ([e], c.next)
  | none, some width =>
      let c := c.next
      match hexNumber width 0 c.rest with
      | .error found => .error (.at (.hexEscape width found) c.mark)
      | .ok code =>
          if code ≥ 0x80000000 then .error (.aborted .codeTooLarge)
          else if code ≥ 0x110000 then
            .error (.rejected (.unconvertible "chr() arg not in range(0x110000)".toList) none)
          else .ok ([Text.charOf code], c.advance width)
  | none, none =>
      match c.lineBreak with
      | some (_, c) => c.quotedBreaks (c.rest.length + 1)
      | none => .error (.at (.unknownEscape ch) c.mark)

/-- Whether a character inside a quoted scalar needs a closer look. -/
def specialInQuotes (c : Char) : Bool :=
  c == ' ' || c == '\'' || c == '"' || c == '\\' || c == '\t' || isBreak c

/-- The text up to the next blank, break or closing quote. -/
def Cursor.quotedWord (double : Bool) : Nat → Cursor → Except Fault (List Char × Cursor)
  | 0, c => .ok ([], c)
  | n + 1, c =>
      let plain := c.run (!specialInQuotes ·)
      let c := c.advance plain.length
      let ch := c.head
      let goOn (piece : List Char) (c : Cursor) : Except Fault (List Char × Cursor) := do
        let (more, c) ← quotedWord double n c
        .ok (plain ++ piece ++ more, c)
      if !double && ch == '\'' && c.ahead 1 == '\'' then goOn ['\''] (c.advance 2)
      else if (double && ch == '\'') || (!double && (ch == '"' || ch == '\\')) then
        goOn [ch] c.next
      else if double && ch == '\\' then do
        let (piece, c) ← c.next.escape
        goOn piece c
      else .ok (plain, c)

/-- The rest of a quoted scalar up to its closing quote. -/
def Cursor.quotedRest (double : Bool) : Nat → Cursor → Except Fault (List Char × Cursor)
  | 0, c => .ok ([], c)
  | n + 1, c => do
      let (word, c) ← c.quotedWord double (c.rest.length + 1)
      if c.head == (if double then '"' else '\'') then .ok (word, c.next)
      else
        let (gap, c) ← c.quotedSpaces
        let (more, c) ← quotedRest double n c
        .ok (word ++ gap ++ more, c)

/-- The scalar token under the cursor, which stands on the opening quote. -/
def Cursor.quotedToken (c : Cursor) (double : Bool) : Except Fault (Token × Cursor) := do
  let (text, last) ← c.next.quotedRest double (c.rest.length + 1)
  .ok ({ kind := .scalar text (if double then .doubleQuoted else .singleQuoted) [],
         start := c.mark, stop := last.mark }, last)

end Yaml
end YamlTidy
