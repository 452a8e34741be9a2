/-!
# Binary floating point

A `Binary64` is a number of the 64-bit binary format.  Finite numbers are kept as a mantissa and an
exponent of two, in the one form in which the mantissa is as large as the format allows, and all
arithmetic is exact arithmetic on naturals followed by one rounding to nearest, ties to even.

Main definitions:

* `Binary64.ofQuotient` and `Binary64.ofDecimal`, the nearest number to an exact value;
* `Binary64.add`, `Binary64.mul`, arithmetic;
* `Binary64.bits`, the interchange form.
-/

namespace YamlTidy

/-- A number of the 64-bit binary format. -/
inductive Binary64 where
  /-- The number `mantissa * 2 ^ exponent`, or its negative. -/
  | finite (negative : Bool) (mantissa : Nat) (exponent : Int)
  | infinite (negative : Bool)
  | notANumber
  deriving Repr, DecidableEq, Inhabited

namespace Binary64

/-- The number of bits of a mantissa. -/
def precision : Nat := 53

/-- The least exponent. -/
def leastExponent : Int := -1074

/-- The greatest exponent. -/
def greatestExponent : Int := 971

/-- The least mantissa that has all its bits. -/
def fullMantissa : Nat := 0x10000000000000

/-- A power of two; one where the exponent is negative. -/
def twoTo (exponent : Int) : Nat :=
  Nat.pow 2 exponent.toNat

/-- A power of ten; one where the exponent is negative. -/
def tenTo (exponent : Int) : Nat :=
  Nat.pow 10 exponent.toNat

/-- The quotient of two naturals rounded to the nearest natural, a half to the even neighbour. -/
def roundedQuotient (num den : Nat) : Nat :=
  let q := num / den
  let twice := 2 * (num % den)
  if den < twice || (twice == den && q % 2 == 1) then q + 1 else q

/-- A rounded mantissa with its exponent; one that is out of range makes an infinity. -/
def settle (negative : Bool) (mantissa : Nat) (exponent : Int) : Binary64 :=
  let full := mantissa == 2 * fullMantissa
  let m := if full then fullMantissa else mantissa
  let e := if full then exponent + 1 else exponent
  if m == 0 then finite negative 0 leastExponent
  else if greatestExponent < e then infinite negative
  else finite negative m e

/-- The number nearest to `num / den * 2 ^ exponent`. -/
def ofQuotient (negative : Bool) (num den : Nat) (exponent : Int) : Binary64 :=
  if num == 0 || den == 0 then finite negative 0 leastExponent
  else
    -- The quotient lies between two neighbouring powers of two; one of two shifts fits.
    let guess : Int := (Nat.log2 num : Int) - Nat.log2 den - (precision - 1 : Nat)
    let at2 (s : Int) : Nat × Nat := (num * twoTo (-s), den * twoTo s)
    let tooLarge (s : Int) : Bool := (at2 s).1 < (at2 s).2 * fullMantissa
    let shift := if tooLarge guess then guess - 1 else guess
    let shift := if exponent + shift < leastExponent then leastExponent - exponent else shift
    let (n, d) := at2 shift
    settle negative (roundedQuotient n d) (exponent + shift)

/-- The number nearest to `mantissa * 2 ^ exponent`. -/
def ofScaled (negative : Bool) (mantissa : Nat) (exponent : Int) : Binary64 :=
  ofQuotient negative mantissa 1 exponent

/-- The number nearest to `digits * 10 ^ exponent`, where `digits` has `count` digits.  Values far
out of range are told apart without computing them. -/
def ofDecimal (negative : Bool) (digits count : Nat) (exponent : Int) : Binary64 :=
  if digits == 0 then finite negative 0 leastExponent
  else if 400 < exponent + count then infinite negative
  else if exponent + count < -400 then finite negative 0 leastExponent
  else ofQuotient negative (digits * tenTo exponent) (tenTo (-exponent)) 0

/-- The number nearest to an integer. -/
def ofInt (n : Int) : Binary64 :=
  ofScaled (n < 0) n.natAbs 0

/-- The number with the other sign. -/
def neg : Binary64 → Binary64
  | finite s m e => finite (!s) m e
  | infinite s => infinite (!s)
  | notANumber => notANumber

/-- A finite number's mantissa with its sign. -/
def signed (negative : Bool) (mantissa : Nat) : Int :=
  if negative then -mantissa else mantissa

/-- The sum of two numbers. -/
def add : Binary64 → Binary64 → Binary64
  | notANumber, _ => notANumber
  | _, notANumber => notANumber
  | infinite s, infinite t => if s == t then infinite s else notANumber
  | infinite s, _ => infinite s
  | _, infinite t => infinite t
  | finite s m e, finite t n f =>
      let low := min e f
      let sum := signed s m * twoTo (e - low) + signed t n * twoTo (f - low)
      if sum == 0 then finite (s && t) 0 leastExponent
      else ofScaled (sum < 0) sum.natAbs low

/-- The product of two numbers. -/
def mul : Binary64 → Binary64 → Binary64
  | notANumber, _ => notANumber
  | _, notANumber => notANumber
  | infinite s, infinite t => infinite (s != t)
  | infinite s, finite t n _ => if n == 0 then notANumber else infinite (s != t)
  | finite s m _, infinite t => if m == 0 then notANumber else infinite (s != t)
  | finite s m e, finite t n f => ofScaled (s != t) (m * n) (e + f)

/-- The interchange form: a sign bit, eleven bits of exponent and 52 bits of mantissa. -/
def bits : Binary64 → Nat
  | finite s m e =>
      let sign := if s then 2048 * fullMantissa else 0
      if m < fullMantissa then sign + m
      else sign + (e - leastExponent + 1).toNat * fullMantissa + (m - fullMantissa)
  | infinite s => (if s then 2048 else 0) * fullMantissa + 2047 * fullMantissa
  | notANumber => 2047 * fullMantissa + fullMantissa / 2

/-- The integer a finite number is equal to, if there is one. -/
def toInt? : Binary64 → Option Int
  | finite s m e =>
      if 0 ≤ e then some (signed s (m * twoTo e))
      else
        let unit := twoTo (-e)
        if m % unit == 0 then some (signed s (m / unit)) else none
  | _ => none

/-- The magnitude of a finite number without its fraction. -/
def wholePart : Binary64 → Nat
  | finite _ m e => if 0 ≤ e then m * twoTo e else m / twoTo (-e)
  | _ => 0

end Binary64
end YamlTidy
