import YamlTidy.Text.Digit
import YamlTidy.Text.Quoted
import YamlTidy.Yaml.Fault
import YamlTidy.Yaml.Schema

/-!
# Integers as they are written

An integer is kept with the form it was written in: its base, the least number of digits, and where
its underscores stood.  `WrittenInteger.ofText` reads a text and `WrittenInteger.text` writes one,
unless it takes too many decimal digits.
-/

namespace YamlTidy
namespace Yaml

open Text

/-- The base of a written integer.  Only the first letter among the digits to base 16 decides
whether all of them are capitals. -/
inductive Base where
  | binary
  | octal
  | decimal
  | hexadecimal (capitals : Bool)
  deriving Repr, DecidableEq, Inhabited

/-- The number of digits of a base. -/
def Base.radix : Base → Nat
  | .binary => 2
  | .octal => 8
  | .decimal => 10
  | .hexadecimal _ => 16

/-- The mark in front of the digits. -/
def Base.mark : Base → List Char
  | .binary => ['0', 'b']
  | .octal => ['0', 'o']
  | .decimal => []
  | .hexadecimal _ => ['0', 'x']

/-- Where underscores stand in an integer. -/
structure Underscores where
  /-- The number of digits between two of them, counted from the end; zero when there are none. -/
  every : Nat
  /-- Whether one stands in front. -/
  front : Bool := false
  /-- Whether one stands at the end. -/
  back : Bool := false
  deriving Repr, DecidableEq, Inhabited

/-- How an integer is written. -/
structure IntegerForm where
  base : Base := .decimal
  /-- The least number of digits, if leading zeros are to be kept. -/
  width : Option Nat := none
  underscores : Option Underscores := none
  deriving Repr, DecidableEq, Inhabited

/-- An integer with its form. -/
structure WrittenInteger where
  value : Int
  form : IntegerForm := {}
  /-- Whether an anchor in front of it is kept. -/
  keepsAnchor : Bool := true
  deriving Repr, DecidableEq, Inhabited

namespace WrittenInteger

/-- The value of a digit to any base up to 36. -/
def digit? (c : Char) : Option Nat :=
  if c.isDigit then some (c.toNat - 48)
  else if 'a' ≤ c && c ≤ 'z' then some (c.toNat - 87)
  else if 'A' ≤ c && c ≤ 'Z' then some (c.toNat - 55)
  else none

/-- The number that digits stand for. -/
def natural? (radix : Nat) : Nat → List Char → Option Nat
  | n, [] => some n
  | n, c :: rest =>
      match digit? c with
      | some d => if d < radix then natural? radix (n * radix + d) rest else none
      | none => none

/-- Digits without the mark of the base, which may be repeated in front of them. -/
def unmarked (radix : Nat) : List Char → List Char
  | '0' :: c :: rest =>
      if (radix == 2 && (c == 'b' || c == 'B')) || (radix == 8 && (c == 'o' || c == 'O')) ||
          (radix == 16 && (c == 'x' || c == 'X')) then rest
      else '0' :: c :: rest
  | s => s

/-- The integer that a text stands for: a sign and digits, with blanks around them.  A message shows
no more than 200 characters of the text. -/
def convert (radix : Nat) (s : List Char) : Except Fault Int :=
  let (negative, ds) := match numberText s with
    | '-' :: rest => (true, rest)
    | '+' :: rest => (false, rest)
    | rest => (false, rest)
  let ds := unmarked radix ds
  let wrong : Fault :=
    .rejected (.unconvertible
      ("invalid literal for int() with base ".toList ++ decimal radix ++ ": ".toList ++
        (quote s).take 200)) none
  match ds, natural? radix 0 ds with
  | [], _ => .error wrong
  | _, none => .error wrong
  | _, some n =>
      if radix == 10 && longestDecimal < ds.length then
        .error (.rejected (.unconvertible (tooManyDigits (some (decimal ds.length)))) none)
      else .ok (if negative then -n else n)

/-- The number to base 60 that decimal pieces stand for. -/
def sixtieths : Int → List (List Char) → Except Fault Int
  | n, [] => .ok n
  | n, piece :: more => do
      let d ← convert 10 piece
      sixtieths (n * 60 + d) more

/-- Where the underscores of a text stand.  Those at the end do not count for the distance. -/
def underscores? (s : List Char) : Option Underscores :=
  let inner := s.reverse.dropWhile (· == '_')
  let after := inner.takeWhile (· != '_')
  if after.length < inner.length then some { every := after.length } else none

/-- Underscores of digits behind a mark of two characters. -/
def markedUnderscores (s : List Char) (u : Underscores) : Underscores :=
  { u with
    front := s[2]? == some '_'
    back := 1 < (s.drop 2).length && s.getLast? == some '_' }

/-- Underscores of digits without a mark. -/
def plainUnderscores (s : List Char) (u : Underscores) : Underscores :=
  { u with back := 1 < s.length && s.getLast? == some '_' }

/-- Whether the first letter among digits to base 16 is a capital. -/
def capitals (ds : List Char) : Bool :=
  match ds.find? fun c => ('A' ≤ c && c ≤ 'F') || ('a' ≤ c && c ≤ 'f') with
  | some c => 'A' ≤ c && c ≤ 'F'
  | none => false

/-- An integer with a mark in front of its digits `ds`. -/
def marked (version11 negative : Bool) (s : List Char) (base : Base) (ds : List Char) :
    Except Fault WrittenInteger := do
  if ds.isEmpty && !version11 then throw (.aborted .emptyNumber)
  let n ← convert base.radix ds
  let width := if !version11 && ds.head? == some '0' then some ds.length else none
  pure {
    value := if negative then -n else n
    form := { base, width, underscores := (underscores? s).map (markedUnderscores s) } }

/-- Reads an integer. -/
def ofText (version11 : Bool) (s : List Char) : Except Fault WrittenInteger :=
  let bare := s.filter (· != '_')
  let (negative, ds) := match bare with
    | '-' :: rest => (true, rest)
    | '+' :: rest => (false, rest)
    | rest => (false, rest)
  let signed (n : Int) : Int := if negative then -n else n
  match ds with
  | [] => .error (.aborted .emptyNumber)
  | ['0'] => .ok { value := 0, keepsAnchor := false }
  | '0' :: 'b' :: rest => marked version11 negative s .binary rest
  | '0' :: 'x' :: rest => marked version11 negative s (.hexadecimal (capitals rest)) rest
  | '0' :: 'o' :: rest => marked version11 negative s .octal rest
  | first :: _ =>
      let u := underscores? s
      if version11 && first == '0' then do
        let n ← convert 8 ds
        pure {
          value := signed n
          form := { base := .octal, underscores := u }
          keepsAnchor := false }
      else if version11 && ds.contains ':' then do
        let n ← sixtieths 0 (Schema.byColons ds)
        pure { value := signed n, keepsAnchor := false }
      else if first == '0' then do
        let n ← convert 10 ds
        pure {
          value := signed n
          form := { width := some ds.length, underscores := u.map (plainUnderscores s) }
          keepsAnchor := false }
      else do
        let n ← convert 10 ds
        pure { value := signed n, form := { underscores := u.map (plainUnderscores s) } }

/-- The digits of a natural to some base, at most `n` of them. -/
def digits (base : Base) : Nat → Nat → List Char
  | 0, _ => []
  | n + 1, k =>
      let d := k % base.radix
      let c :=
        if d < 10 then Char.ofNat (48 + d)
        else Char.ofNat ((if base = .hexadecimal true then 55 else 87) + d)
      if k < base.radix then [c] else digits base n (k / base.radix) ++ [c]

/-- Digits with an underscore in front of every `every` of them, counted from the end.  They come
and go last first. -/
def grouped (every : Nat) : Nat → List Char → List Char
  | 0, s => s
  | n + 1, s =>
      if s.length ≤ every then s else s.take every ++ '_' :: grouped every n (s.drop every)

/-- The digits of a written integer with its sign. -/
def signedDigits (w : WrittenInteger) : List Char :=
  let n := w.value.natAbs
  let ds := digits w.form.base (n.log2 + 1) n
  let sign := if w.value < 0 then ['-'] else []
  let fill := w.form.width.getD 0 - (sign.length + ds.length)
  sign ++ List.replicate fill '0' ++ ds

/-- Whether an integer has more decimal digits than may be written. -/
def isTooLong (w : WrittenInteger) : Bool :=
  let n := w.value.natAbs
  longestDecimal < (digits .decimal (n.log2 + 1) n).length

/-- An integer in its form.  The sign stands behind the mark of the base. -/
def shownText (w : WrittenInteger) : List Char :=
  let s := signedDigits w
  match w.form.underscores with
  | none => w.form.base.mark ++ s
  | some u =>
      let s := if u.every == 0 then s else (grouped u.every s.length s.reverse).reverse
      let s := if u.front then '_' :: s else s
      w.form.base.mark ++ (if u.back then s ++ ['_'] else s)

/-- Writes an integer in its form.  Only decimal digits can be too many. -/
def text (w : WrittenInteger) : Except Abort (List Char) :=
  if w.form.base = .decimal && w.isTooLong then .error .integerTooLong else .ok w.shownText

end WrittenInteger
end Yaml
end YamlTidy
