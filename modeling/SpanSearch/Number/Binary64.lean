/-! # Binary numbers of 64 bits

Floating-point numbers with a mantissa of 53 bits, in exact arithmetic. Every operation either is
exact or rounds once, to the nearest number and to the even mantissa on a tie.
-/

namespace SpanSearch.Number

/-- A floating-point number. The finite ones are `mantissa * 2 ^ exponent` with a sign, so that
there are two zeros. -/
inductive Binary64 where
  | nan
  | infinite (negative : Bool)
  | finite (negative : Bool) (mantissa : Nat) (exponent : Int)
  deriving DecidableEq

namespace Binary64

/-- The least exponent, that of the numbers nearest to zero. -/
def minExponent : Int := -1074

/-- The greatest exponent. -/
def maxExponent : Int := 971

/-- The quotient rounded to the nearest integer, to the even one on a tie. -/
def divNearest (num den : Nat) : Nat :=
  let q := num / den
  let r := num % den
  if 2 * r < den then q
  else if den < 2 * r then q + 1
  else if q % 2 == 0 then q else q + 1

/-- The quotient `num / den` over the power `2 ^ e`, rounded. -/
def scaledQuotient (num den : Nat) (e : Int) : Nat :=
  if 0 ≤ e then divNearest num (den * Nat.pow 2 e.toNat)
  else divNearest (num * Nat.pow 2 (-e).toNat) den

/-- The greatest exponent for which `num / den` has a mantissa of 53 bits before rounding, or the
least exponent if that is greater. -/
def exponentOf (num den : Nat) : Int :=
  let e : Int := (Nat.log2 num : Int) - (Nat.log2 den : Int) - 52
  let tooSmall :=
    if 0 ≤ e then num < den * Nat.pow 2 (52 + e.toNat)
    else num * Nat.pow 2 (-e).toNat < den * Nat.pow 2 52
  max minExponent (if tooSmall then e - 1 else e)

/-- The number nearest to `num / den`, with the given sign. -/
def ofRatio (negative : Bool) (num den : Nat) : Binary64 :=
  if num == 0 then finite negative 0 minExponent
  else
    let e := exponentOf num den
    let m := scaledQuotient num den e
    let (m, e) := if m == Nat.pow 2 53 then (Nat.pow 2 52, e + 1) else (m, e)
    if maxExponent < e then infinite negative else finite negative m e

/-- The number nearest to a natural number. -/
def ofNat (n : Nat) : Binary64 := ofRatio false n 1

/-- The number nearest to `digits * 10 ^ exponent`. Exponents far out of range are decided without
computing the power. -/
def ofDecimal (negative : Bool) (digits : Nat) (exponent : Int) : Binary64 :=
  let size : Int := (Nat.toDigits 10 digits).length
  if digits == 0 then finite negative 0 minExponent
  else if 400 < size + exponent then infinite negative
  else if size + exponent < -400 then finite negative 0 minExponent
  else if 0 ≤ exponent then ofRatio negative (digits * Nat.pow 10 exponent.toNat) 1
  else ofRatio negative digits (Nat.pow 10 (-exponent).toNat)

/-- The value of a finite number in units of the least positive number. -/
def units (negative : Bool) (mantissa : Nat) (exponent : Int) : Int :=
  let n : Int := (mantissa * Nat.pow 2 (exponent - minExponent).toNat : Nat)
  if negative then -n else n

/-- The order of two numbers. What is not a number has no order, and the two zeros are equal. -/
def order? : Binary64 → Binary64 → Option Ordering
  | nan, _ => none
  | _, nan => none
  | infinite p, infinite q => some (compare q p)
  | infinite p, finite .. => some (if p then .lt else .gt)
  | finite .., infinite q => some (if q then .gt else .lt)
  | finite p m e, finite q n f => some (compare (units p m e) (units q n f))

/-- Whether the number counts as true: it is a number and not zero. -/
def isTruthy : Binary64 → Bool
  | nan => false
  | infinite _ => true
  | finite _ m _ => m != 0

/-- The magnitude of a finite number, rounded to the nearest integer and away from zero on a
tie. -/
def nearestNat (mantissa : Nat) (exponent : Int) : Nat :=
  if 0 ≤ exponent then mantissa * Nat.pow 2 exponent.toNat
  else
    let half := Nat.pow 2 ((-exponent).toNat - 1)
    (mantissa + half) / (2 * half)

/-- The integer a finite number is equal to, if it is one. -/
def toInt? : Binary64 → Option Int
  | finite negative m e =>
    if 0 ≤ e || m % Nat.pow 2 (-e).toNat == 0 then
      let n : Int := nearestNat m e
      some (if negative then -n else n)
    else none
  | _ => none

/-- The least signed integer of 64 bits. -/
def leastInt64 : Int := -9223372036854775808

/-- The greatest signed integer of 64 bits. -/
def greatestInt64 : Int := 9223372036854775807

/-- The nearest signed integer of 64 bits, halves going away from zero. What is not a number
becomes zero and what is out of range the nearest bound. -/
def toInt64 : Binary64 → Int
  | nan => 0
  | infinite negative => if negative then leastInt64 else greatestInt64
  | finite negative m e =>
    let n : Int := nearestNat m e
    if negative then max leastInt64 (-n) else min greatestInt64 n

/-- The nearest unsigned integer of 64 bits, halves going away from zero. What is not a number
becomes zero and what is out of range the nearest bound. -/
def toNat64 : Binary64 → Nat
  | nan => 0
  | infinite negative => if negative then 0 else Nat.pow 2 64 - 1
  | finite negative m e => if negative then 0 else min (Nat.pow 2 64 - 1) (nearestNat m e)

end Binary64

end SpanSearch.Number
