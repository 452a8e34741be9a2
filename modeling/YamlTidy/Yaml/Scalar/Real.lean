import YamlTidy.Number.Digits
import YamlTidy.Text.Case
import YamlTidy.Text.Digit
import YamlTidy.Text.Quoted
import YamlTidy.Yaml.Fault
import YamlTidy.Yaml.Schema

/-!
# Floating-point numbers as they are written

A number is kept with the form it was written in: how long it was, where its point stood, its sign
and its exponent.  `WrittenReal.ofText` reads a text and `WrittenReal.text` writes the number in its
form, which gives the same text back for most numbers.
-/

namespace YamlTidy
namespace Yaml

open Text

/-- The exponent of a written number. -/
structure ExponentForm where
  /-- The letter in front. -/
  letter : Char
  /-- Its length with the sign. -/
  width : Nat
  /-- Whether it has a sign. -/
  signed : Bool
  deriving Repr, DecidableEq, Inhabited

/-- How a number is written. -/
structure RealForm where
  /-- The length of the number, or of what stands in front of its exponent. -/
  width : Nat
  /-- What stands in front of the point, with its sign; none when there is no point. -/
  beforePoint : Option Nat
  sign : Option Char := none
  /-- The zeros it begins with. -/
  leadingZeros : Nat := 0
  exponent : Option ExponentForm := none
  deriving Repr, DecidableEq, Inhabited

/-- A number with its form; there is none for infinities, for no number and for numbers to
base 60. -/
structure WrittenReal where
  value : Binary64
  form : Option RealForm := none
  deriving Repr, DecidableEq, Inhabited

namespace WrittenReal

/-- The number that digits stand for. -/
def natural (ds : List Char) : Nat :=
  ds.foldl (fun n c => 10 * n + (c.toNat - 48)) 0

/-- The exponent at the end of a number: nothing, or a letter, a sign and digits. -/
def exponent? : List Char → Option Int
  | [] => some 0
  | c :: rest =>
      if c != 'e' then none
      else
        let (negative, ds) := match rest with
          | '-' :: ds => (true, ds)
          | '+' :: ds => (false, ds)
          | ds => (false, ds)
        if ds.isEmpty || !ds.all Char.isDigit then none
        else
          -- No exponent beyond this tells anything more.
          let n : Int := natural (if ds.length ≤ 18 then ds else ['9'])
          let n := if ds.length ≤ 18 then n else 1000000000000000000
          some (if negative then -n else n)

/-- The number that a text in small letters stands for. -/
def number? (s : List Char) : Option Binary64 :=
  let (negative, body) := match numberText s with
    | '-' :: rest => (true, rest)
    | '+' :: rest => (false, rest)
    | rest => (false, rest)
  if body == "inf".toList || body == "infinity".toList then some (.infinite negative)
  else if body == "nan".toList then some .notANumber
  else
    let whole := body.takeWhile Char.isDigit
    let rest := body.drop whole.length
    let fraction := match rest with
      | '.' :: more => more.takeWhile Char.isDigit
      | _ => []
    let rest := match rest with
      | '.' :: more => more.drop fraction.length
      | rest => rest
    let ds := (whole ++ fraction).dropWhile (· == '0')
    if whole.isEmpty && fraction.isEmpty then none
    else
      (exponent? rest).map fun e =>
        .ofDecimal negative (natural ds) ds.length (e - fraction.length)

/-- The number that a text in small letters stands for, or a fault. -/
def convert (s : List Char) : Except Fault Binary64 :=
  match number? s with
  | some x => .ok x
  | none =>
      .error (.rejected
        (.unconvertible ("could not convert string to float: ".toList ++ quote s)) none)

/-- The numbers that pieces stand for. -/
def convertAll : List (List Char) → Except Fault (List Binary64)
  | [] => .ok []
  | piece :: more => do
      let x ← convert piece
      let others ← convertAll more
      pure (x :: others)

/-- The number to base 60 that pieces stand for, the last one first.  A place that counts `2 ^ 1024`
or more counts more than any number. -/
def sixtieths (sum : Binary64) (base : Nat) : List Binary64 → Except Fault Binary64
  | [] => .ok sum
  | x :: more =>
      if 1024 ≤ base.log2 then .error (.aborted .placeTooHigh)
      else sixtieths (sum.add (x.mul (.ofInt base))) (base * 60) more

/-- The zeros that a text begins with; points between them do not count. -/
def leadingZeros (s : List Char) : Nat :=
  (s.takeWhile fun c => c == '0' || c == '.').count '0'

/-- The pieces of a text between letters `letter`. -/
def between (letter : Char) : List Char → List (List Char)
  | [] => [[]]
  | c :: rest =>
      if c == letter then [] :: between letter rest
      else
        match between letter rest with
        | [] => [[c]]
        | piece :: more => (c :: piece) :: more

/-- The place of the point in a text. -/
def point? (s : List Char) : Option Nat :=
  if s.contains '.' then some (s.takeWhile (· != '.')).length else none

/-- What stands in front of the letter of an exponent, the letter, and what stands behind it. -/
def splitExponent (s : List Char) : Except Fault (List Char × Char × List Char) :=
  match between 'e' s with
  | [m, e] => .ok (m, 'e', e)
  | _ =>
      match between 'E' s with
      | [m, e] => .ok (m, 'E', e)
      | [_] =>
          .error (.rejected
            (.unconvertible "not enough values to unpack (expected 2, got 1)".toList) none)
      | _ =>
          .error (.rejected
            (.unconvertible "too many values to unpack (expected 2)".toList) none)

/-- Reads a number. -/
def ofText (version11 : Bool) (s : List Char) : Except Fault WrittenReal :=
  let bare := toSmall (s.filter (· != '_'))
  let (sign, body) : Option Char × List Char := match bare with
    | '-' :: rest => (some '-', rest)
    | '+' :: rest => (some '+', rest)
    | rest => (none, rest)
  let signed (x : Binary64) : Binary64 := if sign = some '-' then x.neg else x
  if bare.isEmpty then .error (.aborted .emptyNumber)
  else if body == ".inf".toList then .ok { value := signed (.infinite false) }
  else if body == ".nan".toList then .ok { value := .notANumber }
  else if version11 && body.contains ':' then do
    let pieces ← convertAll (Schema.byColons body)
    let x ← sixtieths (.finite false 0 Binary64.leastExponent) 1 pieces.reverse
    pure { value := signed x }
  else if body.contains 'e' then do
    let (mantissa, letter, exponent) ← splitExponent s
    match exponent with
    | [] => throw (.aborted .emptyNumber)
    | first :: _ =>
        let x ← convert body
        pure {
          value := signed x
          form := some {
            width := mantissa.length - (if sign.isSome then 1 else 0)
            beforePoint := point? mantissa
            sign
            leadingZeros := leadingZeros mantissa
            exponent := some {
              letter, width := exponent.length, signed := first == '+' || first == '-' } } }
  else do
    let x ← convert body
    pure {
      value := signed x
      form := some {
        width := s.length, beforePoint := point? s, sign, leadingZeros := leadingZeros s } }

/-- A text filled up with zeros at its end. -/
def filled (width : Nat) (s : List Char) : List Char :=
  s ++ List.replicate (width - s.length) '0'

/-- A text filled up with zeros in front. -/
def zeroPadded (width : Nat) (s : List Char) : List Char :=
  List.replicate (width - s.length) '0' ++ s

/-- The number without an exponent. -/
def plainText (f : RealForm) (value : Binary64) (mantissa : Nat) (exponent : Int) : List Char :=
  let sign := f.sign.toList
  let room := f.width - sign.length
  match f.beforePoint with
  | none =>
      filled f.width
        (sign ++ zeroPadded room (toString value.wholePart).toList)
  | some place =>
      if 0 < place && place + 1 == f.width then
        sign ++ (toString value.wholePart).toList ++ ['.']
      else
        let s := zeroPadded room (Binary64.fixed mantissa exponent (f.width - place - 1))
        -- A number that began with its point does so again.
        let bare := place == 0 || (place == 1 && f.sign.isSome)
        let whole := s.takeWhile (· != '.')
        let s :=
          if bare && whole.getLast? == some '0' then whole.dropLast ++ s.drop whole.length else s
        filled f.width (sign ++ s)

/-- An exponent in its form. -/
def exponentText (x : ExponentForm) (e : Int) : List Char :=
  let sign := if e < 0 then ['-'] else if x.signed then ['+'] else []
  x.letter :: sign ++ zeroPadded (x.width - sign.length) (toString e.natAbs).toList

/-- Moves digits in front of the point until there are `place` characters. -/
def fillFront (place : Nat) :
    List Char → List Char → Int → Except Abort (List Char × List Char × Int)
  | m1, [], e => if m1.length < place then .error .emptyNumber else .ok (m1, [], e)
  | m1, c :: m2, e =>
      if m1.length < place then fillFront place (m1 ++ [c]) m2 (e - 1) else .ok (m1, c :: m2, e)

/-- The number with an exponent from the digits in front of its point and those behind it. -/
def withPlaces (f : RealForm) (x : ExponentForm) (m1 m2 : List Char) (e : Int) :
    Except Abort (List Char) :=
  match f.beforePoint with
  | none =>
      let (m2, e) := if m2 == ['0'] then ([], e) else (m2, e - m2.length)
      let missing := f.width + (if f.sign.isSome then 1 else 0) - (m1.length + m2.length)
      .ok (m1 ++ m2 ++ List.replicate missing '0' ++ exponentText x (e - missing))
  | some 0 => .ok (m1 ++ m2 ++ ['.'] ++ exponentText x (e - m2.length))
  | some place => do
      let (m1, m2, e) : List Char × List Char × Int :=
        if f.leadingZeros == 0 then (m1, m2, e)
        else
          let all := List.replicate (f.leadingZeros - 1) '0' ++ m1 ++ m2
          (['0'], all.take (all.length - f.leadingZeros), e + f.leadingZeros)
      let (m1, m2, e) ← fillFront place m1 m2 e
      pure (m1 ++ '.' :: m2 ++ exponentText x e)

/-- The number with an exponent.  Its digits are cut to the length they had, which leaves no point
when a sign was written for nothing but a zero. -/
def scientificText (f : RealForm) (x : ExponentForm) (negative : Bool) (mantissa : Nat)
    (exponent : Int) : Except Abort (List Char) :=
  let places := f.width + (if f.sign.isSome then 1 else 0)
  let (ds, e) := Binary64.scientific mantissa exponent places
  let below := negative && mantissa != 0
  let minus := if negative then ['-'] else []
  let keep :=
    (match f.beforePoint with
      | some (_ + 1) => f.width
      | _ => f.width + 1) + (if below then 1 else 0)
  let m := (minus ++ ds.take 1 ++ (if places == 0 then [] else '.' :: ds.drop 1)).take keep
  let m1 := m.takeWhile (· != '.')
  let m2 := m.drop (m1.length + 1)
  let least := f.width - (if f.beforePoint.isSome then 1 else 0)
  let m2 := m2 ++ List.replicate (least - (m1.length + m2.length)) '0'
  let signedFront := if f.sign = some '+' && !negative && mantissa != 0 then '+' :: m1 else m1
  if m1.length = m.length then .error .pointCut
  else withPlaces f x signedFront m2 e

/-- Writes a number in its form. -/
def text (w : WrittenReal) : Except Abort (List Char) :=
  match w.value with
  | .notANumber => .ok ".nan".toList
  | .infinite negative => .ok (if negative then "-.inf" else ".inf").toList
  | .finite negative mantissa exponent =>
      match w.form with
      | none => .ok w.value.shown
      | some f =>
          match f.exponent with
          | none => .ok (plainText f w.value mantissa exponent)
          | some x => scientificText f x negative mantissa exponent

end WrittenReal
end Yaml
end YamlTidy
