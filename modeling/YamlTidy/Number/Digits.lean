import YamlTidy.Number.Binary64

/-!
# Decimal digits of binary numbers

Three ways to write the magnitude of a finite number in decimal: with a set number of places
(`fixed`), with a set number of digits and an exponent (`scientific`), and with the fewest digits
that read back as the same number (`shortest`).  All of them decide by exact arithmetic.
-/

namespace YamlTidy
namespace Binary64

/-- The decimal digits of a natural. -/
def naturalDigits (n : Nat) : List Char :=
  (toString n).toList

/-- Digits filled up with zeros in front. -/
def padded (width : Nat) (ds : List Char) : List Char :=
  List.replicate (width - ds.length) '0' ++ ds

/-- The exact magnitude of `mantissa * 2 ^ exponent` as a quotient of naturals. -/
def quotient (mantissa : Nat) (exponent : Int) : Nat × Nat :=
  (mantissa * twoTo exponent, twoTo (-exponent))

/-- A magnitude with `places` digits behind the point, ties to even. -/
def fixed (mantissa : Nat) (exponent : Int) (places : Nat) : List Char :=
  let (num, den) := quotient mantissa exponent
  let ds := padded (places + 1) (naturalDigits (roundedQuotient (num * tenTo places) den))
  let whole := ds.take (ds.length - places)
  if places == 0 then whole else whole ++ '.' :: ds.drop (ds.length - places)

/-- The least `k` with `num / den < 10 ^ k`. -/
def magnitude (num den : Nat) : Int :=
  -- The number of digits of the quotient of the digit counts is off by one at most.
  let guess : Int := ((naturalDigits num).length : Int) - (naturalDigits den).length
  if num * tenTo (-guess) < den * tenTo guess then guess else guess + 1

/-- A magnitude as `places + 1` digits and the exponent of ten of the first of them, ties to
even. -/
def scientific (mantissa : Nat) (exponent : Int) (places : Nat) : List Char × Int :=
  if mantissa == 0 then (List.replicate (places + 1) '0', 0)
  else
    let (num, den) := quotient mantissa exponent
    let e := magnitude num den - 1
    let shift : Int := places - e
    let ds := naturalDigits (roundedQuotient (num * tenTo shift) (den * tenTo (-shift)))
    -- Rounding up to a power of ten brings one digit too many.
    if places + 1 < ds.length then (ds.take (places + 1), e + 1) else (ds, e)

/-- Whether `digits * 10 ^ scale` reads back as `mantissa * 2 ^ exponent`. -/
def readsBack (mantissa : Nat) (exponent : Int) (digits : Nat) (scale : Int) : Bool :=
  ofQuotient false (digits * tenTo scale) (tenTo (-scale)) 0 ==
    finite false mantissa exponent

/-- The better of the two decimals with `count` digits next to a magnitude that read back, as digits
and the power of ten they count. -/
def neighbour? (mantissa : Nat) (exponent : Int) (count : Nat) : Option (Nat × Int) :=
  let (num, den) := quotient mantissa exponent
  let scale := magnitude num den - count
  let (n, d) := (num * tenTo (-scale), den * tenTo scale)
  let below := n / d
  let above := below + 1
  match readsBack mantissa exponent below scale, readsBack mantissa exponent above scale with
  | true, true => some (roundedQuotient n d, scale)
  | true, false => some (below, scale)
  | false, true => some (above, scale)
  | false, false => none

/-- The fewest digits that read back, tried from `count` digits on.  Seventeen always suffice. -/
def shortestFrom (mantissa : Nat) (exponent : Int) : Nat → Nat → Nat × Int
  | 0, _ => (mantissa * twoTo exponent * Nat.pow 5 (-exponent).toNat, min exponent 0)
  | tries + 1, count =>
      match neighbour? mantissa exponent count with
      | some found => found
      | none => shortestFrom mantissa exponent tries (count + 1)

/-- The fewest digits of a magnitude that read back, and the exponent of ten of the first. -/
def shortest (mantissa : Nat) (exponent : Int) : List Char × Int :=
  if mantissa == 0 then (['0'], 0)
  else
    let (digits, scale) := shortestFrom mantissa exponent 17 1
    let ds := naturalDigits digits
    ((ds.reverse.dropWhile (· == '0')).reverse, scale + ds.length - 1)

/-- An exponent with its sign and at least two digits. -/
def exponentText (e : Int) : List Char :=
  (if e < 0 then '-' else '+') :: padded 2 (naturalDigits e.natAbs)

/-- Digits, the first of which counts `10 ^ x`, in front of and behind a point; there is always a
digit in front. -/
def aroundPoint (ds : List Char) (x : Int) : List Char × List Char :=
  if x < 0 then (['0'], List.replicate (-x - 1).toNat '0' ++ ds)
  else
    let whole := x.toNat + 1
    (ds.take whole ++ List.replicate (whole - ds.length) '0', ds.drop whole)

/-- Digits, the first of which counts `10 ^ x`, with a point behind the first and an exponent. -/
def withExponent (ds : List Char) (x : Int) : List Char :=
  let back := ds.drop 1
  ds.take 1 ++ (if back.isEmpty then [] else '.' :: back) ++ 'e' :: exponentText x

/-- The text of a number, given how its magnitude is written. -/
def signedText (magnitude : Nat → Int → List Char) : Binary64 → List Char
  | notANumber => "nan".toList
  | infinite s => (if s then "-inf" else "inf").toList
  | finite s m e => (if s then ['-'] else []) ++ magnitude m e

/-- A number in the form in which messages show it: the fewest digits that read back, with a point,
positional from 1e-4 up to 1e16 and with an exponent elsewhere. -/
def shown : Binary64 → List Char :=
  signedText fun m e =>
    let (ds, x) := shortest m e
    if -4 ≤ x && x < 16 then
      let (front, back) := aroundPoint ds x
      front ++ '.' :: (if back.isEmpty then ['0'] else back)
    else withExponent ds x

/-- A number in short: six digits without zeros at the end, positional from 1e-4 up to 1e6 and
with an exponent elsewhere. -/
def brief : Binary64 → List Char :=
  signedText fun m e =>
    let (all, x) := scientific m e 5
    let ds := all.take 1 ++ ((all.drop 1).reverse.dropWhile (· == '0')).reverse
    if -4 ≤ x && x < 6 then
      let (front, back) := aroundPoint ds x
      front ++ (if back.isEmpty then [] else '.' :: back)
    else withExponent ds x

end Binary64
end YamlTidy
