import SpanSearch.Number.Binary64
import SpanSearch.Number.Digit

/-! # Reading numbers

The decimal notations of a number: a sign, digits with or without a point, an exponent, and the
words for what is infinite or not a number, in any case.
-/

namespace SpanSearch.Number

/-- Takes a sign off, telling whether it was a minus. -/
def takeSign : List Char → Bool × List Char
  | '-' :: cs => (true, cs)
  | '+' :: cs => (false, cs)
  | cs => (false, cs)

/-- The exponent written by what follows the digits, where nothing stands for zero. -/
def exponent? : List Char → Option Int
  | [] => some 0
  | c :: cs =>
    if c == 'e' || c == 'E' then
      let (negative, digits) := takeSign cs
      if digits.isEmpty || !digits.all isDigit then none
      else
        let n : Int := ofDigits digits
        some (if negative then -n else n)
    else none

/-- The number written by digits, a point and an exponent. At least one digit stands before or
after the point. -/
def decimal? (negative : Bool) (cs : List Char) : Option Binary64 :=
  let whole := cs.takeWhile isDigit
  let rest := cs.dropWhile isDigit
  let (fraction, rest) :=
    match rest with
    | '.' :: tail => (tail.takeWhile isDigit, tail.dropWhile isDigit)
    | rest => ([], rest)
  if whole.isEmpty && fraction.isEmpty then none
  else
    (exponent? rest).map fun e =>
      .ofDecimal negative (ofDigits (whole ++ fraction)) (e - fraction.length)

/-- The number that the whole text writes, if it writes one. -/
def read? (cs : List Char) : Option Binary64 :=
  let (negative, rest) := takeSign cs
  let word := rest.map Char.toLower
  if word == "inf".toList || word == "infinity".toList then some (.infinite negative)
  else if word == "nan".toList then some .nan
  else decimal? negative rest

/-- The natural number below `2 ^ 64` that the whole text writes: digits, after a plus or not. -/
def natural? (cs : List Char) : Option Nat :=
  let digits := match cs with
    | '+' :: rest => rest
    | cs => cs
  if digits.isEmpty || !digits.all isDigit then none
  else
    let n := ofDigits digits
    if n < Nat.pow 2 64 then some n else none

end SpanSearch.Number
