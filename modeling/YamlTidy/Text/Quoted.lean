import YamlTidy.Text.Printable

/-!
# Quoted text in messages

A message quotes a piece of text between apostrophes, or between double quotes when the piece holds
an apostrophe and no double quote.  A backslash, the quote in use and every character that is not
printable are written as escapes.
-/

namespace YamlTidy
namespace Text

/-- A digit below 16 in lower case. -/
def hexDigit (n : Nat) : Char :=
  if n < 10 then Char.ofNat (48 + n) else Char.ofNat (87 + n)

/-- The last `width` hexadecimal digits of a number. -/
def hexDigits : Nat → Nat → List Char
  | 0, _ => []
  | width + 1, n => hexDigits width (n / 16) ++ [hexDigit (n % 16)]

/-- A character as it stands between quotes `q`. -/
def quoteChar (q c : Char) : List Char :=
  if c == q || c == '\\' then ['\\', c]
  else if c == '\n' then ['\\', 'n']
  else if c == '\r' then ['\\', 'r']
  else if c == '\t' then ['\\', 't']
  else if isPrintable c then [c]
  else if let some code := surrogate? c then '\\' :: 'u' :: hexDigits 4 code
  else if c.toNat < 0x100 then '\\' :: 'x' :: hexDigits 2 c.toNat
  else if c.toNat < 0x10000 then '\\' :: 'u' :: hexDigits 4 c.toNat
  else '\\' :: 'U' :: hexDigits 8 c.toNat

/-- The quotes for a piece of text: apostrophes unless only double quotes avoid an escape. -/
def quoteFor (s : List Char) : Char :=
  if s.contains '\'' && !s.contains '"' then '"' else '\''

/-- A piece of text between quotes. -/
def quote (s : List Char) : List Char :=
  let q := quoteFor s
  q :: s.flatMap (quoteChar q) ++ [q]

end Text
end YamlTidy
