import SpanSearch.Number.Binary64

/-! # Writing numbers

A number is written with the fewest digits that read back as the same number, those nearest to it
among the candidates, and always by position, never with an exponent.
-/

namespace SpanSearch.Number

/-- The numbers that read back as a positive number: everything from `low / den` to `high / den`,
with the ends if `closed`. The number itself is `mid / den`. -/
structure Neighbourhood where
  low : Nat
  mid : Nat
  high : Nat
  den : Nat
  closed : Bool

/-- The neighbourhood of `mantissa * 2 ^ exponent`. Below a power of two the next number is only
half as far away. -/
def Neighbourhood.of (mantissa : Nat) (exponent : Int) : Neighbourhood :=
  let scale := Nat.pow 2 exponent.toNat
  let below := if mantissa == Nat.pow 2 52 && Binary64.minExponent < exponent then 1 else 2
  { low := (4 * mantissa - below) * scale
    mid := 4 * mantissa * scale
    high := (4 * mantissa + 2) * scale
    den := 4 * Nat.pow 2 (-exponent).toNat
    closed := mantissa % 2 == 0 }

namespace Neighbourhood

/-- Multiplies what is compared so that a multiple of `10 ^ place` becomes an integer. The result
is the neighbourhood's three numbers and the value of one step of that place. -/
def onGrid (hood : Neighbourhood) (place : Int) : Nat × Nat × Nat × Nat :=
  let up := Nat.pow 10 (-place).toNat
  (hood.low * up, hood.mid * up, hood.high * up, hood.den * Nat.pow 10 place.toNat)

/-- The multiple of `10 ^ place` that reads back as the number, the nearer of two, and the greater
on a tie. -/
def nearestOnGrid? (hood : Neighbourhood) (place : Int) : Option Nat :=
  let (low, mid, high, step) := hood.onGrid place
  let d := mid / step
  let fits (n : Nat) : Bool :=
    if hood.closed then low ≤ n * step && n * step ≤ high else low < n * step && n * step < high
  match fits d, fits (d + 1) with
  | true, true => some (if 2 * (mid - d * step) < step then d else d + 1)
  | true, false => some d
  | false, true => some (d + 1)
  | false, false => none

/-- The number of digits before the point of `mid / den`; for numbers below one, minus the number
of zeros after the point. -/
def places (hood : Neighbourhood) : Int :=
  if hood.den ≤ hood.mid then (Nat.toDigits 10 (hood.mid / hood.den)).length
  else zeros 400 hood.mid 0
where
  /-- Counts the zeros after the point, at most `fuel` of them. -/
  zeros : Nat → Nat → Int → Int
    | 0, _, acc => acc
    | fuel + 1, num, acc => if hood.den ≤ num * 10 then acc else zeros fuel (num * 10) (acc - 1)

/-- The fewest digits that read back, from `count` digits on, with the place of the last one. -/
def shortestFrom (hood : Neighbourhood) (places : Int) : (fuel count : Nat) → Nat × Int
  | 0, count => (hood.mid / hood.den, places - count)
  | fuel + 1, count =>
    match hood.nearestOnGrid? (places - count) with
    | some d => (d, places - count)
    | none => hood.shortestFrom places fuel (count + 1)

end Neighbourhood

/-- The text of `digits * 10 ^ place`. -/
def positional (digits : Nat) (place : Int) : String :=
  let ds := Nat.toDigits 10 digits
  if 0 ≤ place then String.ofList (ds ++ List.replicate place.toNat '0')
  else
    let after := (-place).toNat
    let ds := List.replicate (after + 1 - ds.length) '0' ++ ds
    let cut := ds.length - after
    let fraction := ((ds.drop cut).reverse.dropWhile (· == '0')).reverse
    if fraction.isEmpty then String.ofList (ds.take cut)
    else String.ofList (ds.take cut ++ '.' :: fraction)

/-- The text of a number. An integer of less than sixteen digits is written as an integer, without
the sign of a negative zero. -/
def Binary64.text (x : Binary64) : String :=
  match x with
  | .nan => "NaN"
  | .infinite negative => if negative then "-inf" else "inf"
  | .finite negative m e =>
    match x.toInt? with
    | some n => if n.natAbs < Nat.pow 10 15 then toString n else shortest negative m e
    | none => shortest negative m e
where
  /-- The fewest digits that read back, after the sign. -/
  shortest (negative : Bool) (m : Nat) (e : Int) : String :=
    let hood := Neighbourhood.of m e
    let (digits, place) := hood.shortestFrom hood.places 17 1
    (if negative then "-" else "") ++ positional digits place

end SpanSearch.Number
