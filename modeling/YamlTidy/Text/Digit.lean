import YamlTidy.Text.Blank

/-!
# Numbers in texts

A number may be written with the decimal digits of any script and with blanks around it.
`numberText` brings a text to the form in which its number is read.
-/

namespace YamlTidy
namespace Text

/-- The zeros of all scripts that have decimal digits.  The nine other digits follow each of
them. -/
def zeros : List Nat := [
  0x30, 0x660, 0x6F0, 0x7C0, 0x966, 0x9E6, 0xA66, 0xAE6, 0xB66, 0xBE6, 0xC66, 0xCE6, 0xD66,
  0xDE6, 0xE50, 0xED0, 0xF20, 0x1040, 0x1090, 0x17E0, 0x1810, 0x1946, 0x19D0, 0x1A80, 0x1A90,
  0x1B50, 0x1BB0, 0x1C40, 0x1C50, 0xA620, 0xA8D0, 0xA900, 0xA9D0, 0xA9F0, 0xAA50, 0xABF0,
  0xFF10, 0x104A0, 0x10D30, 0x11066, 0x110F0, 0x11136, 0x111D0, 0x112F0, 0x11450, 0x114D0,
  0x11650, 0x116C0, 0x11730, 0x118E0, 0x11950, 0x11C50, 0x11D50, 0x11DA0, 0x16A60, 0x16AC0,
  0x16B50, 0x1D7CE, 0x1D7D8, 0x1D7E2, 0x1D7EC, 0x1D7F6, 0x1E140, 0x1E2F0, 0x1E950, 0x1FBF0]

/-- The value of a decimal digit of any script. -/
def decimalDigit? (c : Char) : Option Nat :=
  (zeros.find? fun first => first ≤ c.toNat && c.toNat < first + 10).map fun first =>
    c.toNat - first

/-- A decimal digit of any script. -/
def isDecimalDigit (c : Char) : Bool :=
  (decimalDigit? c).isSome

/-- A character as it counts in a number.  Outside ASCII there are only blanks and digits; a
question mark stands for anything else. -/
def numberChar (c : Char) : Char :=
  if c.toNat < 127 then c
  else if isBlank c then ' '
  else
    match decimalDigit? c with
    | some d => Char.ofNat (48 + d)
    | none => '?'

/-- A blank that may stand around a number.  The information separators may not. -/
def isNumberBlank (c : Char) : Bool :=
  c == ' ' || ('\t' ≤ c && c ≤ '\r')

/-- A text in ASCII without the blanks around it. -/
def numberText (s : List Char) : List Char :=
  let inner := (s.map numberChar).dropWhile isNumberBlank
  (inner.reverse.dropWhile isNumberBlank).reverse

/-- The most digits of a number that is read from decimal digits or written in them. -/
def longestDecimal : Nat := 4300

/-- What is wrong with a number of more digits.  Their count is told where they are read. -/
def tooManyDigits (count : Option (List Char)) : List Char :=
  "Exceeds the limit (4300 digits) for integer string conversion".toList ++
    (match count with
      | some n => ": value has ".toList ++ n ++ " digits".toList
      | none => []) ++
    "; use sys.set_int_max_str_digits() to increase the limit".toList

end Text
end YamlTidy
