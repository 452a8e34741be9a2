/-!
# Blank characters

The blank characters of a text are the Unicode white space characters together with the four
information separators U+001C to U+001F.  A line is stripped of exactly these, and a comma is a
leftover when nothing but these separates it from a closing bracket or a line break.

Main definitions:

* `isBlank`, the class itself;
* `stripStart`, `stripEnd`, `strip`, which remove blanks at the ends of a text;
* `leadingSpaces`, the number of U+0020 a text begins with.
-/

namespace YamlTidy
namespace Text

/-- A character is blank when it is Unicode white space or an information separator. -/
def isBlank (c : Char) : Bool :=
  let n := c.toNat
  (9 ≤ n && n ≤ 13) || (28 ≤ n && n ≤ 32) || n == 0x85 || n == 0xA0 || n == 0x1680 ||
    (0x2000 ≤ n && n ≤ 0x200A) || n == 0x2028 || n == 0x2029 || n == 0x202F || n == 0x205F ||
    n == 0x3000

/-- A text without the blanks it begins with. -/
def stripStart (s : List Char) : List Char :=
  s.dropWhile isBlank

/-- A text without the blanks it ends with. -/
def stripEnd (s : List Char) : List Char :=
  (s.reverse.dropWhile isBlank).reverse

/-- A text without blanks at either end. -/
def strip (s : List Char) : List Char :=
  stripEnd (stripStart s)

/-- The number of spaces a text begins with.  Only U+0020 counts. -/
def leadingSpaces (s : List Char) : Nat :=
  (s.takeWhile (· == ' ')).length

/-- The number of blanks a text begins with. -/
def leadingBlanks (s : List Char) : Nat :=
  (s.takeWhile isBlank).length

/-- A text of `n` spaces; there are none when `n` is negative. -/
def spaces (n : Int) : List Char :=
  List.replicate n.toNat ' '

end Text
end YamlTidy
