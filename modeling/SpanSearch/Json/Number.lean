import SpanSearch.Json.Failure
import SpanSearch.Number.Read
import SpanSearch.Offset

/-! # Numbers in JSON

How numbers stand in JSON. Only natural numbers below the limit of offsets are of use here. All
others are read too, so that it is known whether they are well-formed, and whether they are in the
range of 64-bit binary floating point.
-/

namespace SpanSearch.Json

open Number

/-- A number as it is written. -/
structure NumberText where
  negative : Bool
  whole : List Char
  /-- The digits after the point, if there is one. -/
  fraction? : Option (List Char)
  /-- The digits of the exponent with its sign, if there is one. -/
  exponent? : Option (Bool × List Char)

/-- Reads digits, at least one. -/
def readDigits (cs : List Char) : Except Failure (List Char × List Char) :=
  match cs with
  | [] => .error .truncated
  | c :: _ =>
    if isDigit c then .ok (cs.takeWhile isDigit, cs.dropWhile isDigit) else .error .malformed

/-- Reads the whole part of a number, in which a zero may only stand by itself. -/
def readWhole : List Char → Except Failure (List Char × List Char)
  | '0' :: rest => if rest.head?.any isDigit then .error .malformed else .ok (['0'], rest)
  | cs => readDigits cs

/-- Reads the fraction of a number, if there is one. -/
def readFraction : List Char → Except Failure (Option (List Char) × List Char)
  | '.' :: rest =>
    match readDigits rest with
    | .ok (digits, rest) => .ok (some digits, rest)
    | .error failure => .error failure
  | cs => .ok (none, cs)

/-- Reads the exponent of a number, if there is one. -/
def readExponent : List Char → Except Failure (Option (Bool × List Char) × List Char)
  | [] => .ok (none, [])
  | c :: rest =>
    if c == 'e' || c == 'E' then
      let signed := rest.head? == some '-' || rest.head? == some '+'
      match readDigits (if signed then rest.tail else rest) with
      | .ok (digits, after) => .ok (some (rest.head? == some '-', digits), after)
      | .error failure => .error failure
    else .ok (none, c :: rest)

/-- Reads a number, whose sign, if it has one, is known already. -/
def readUnsigned (negative : Bool) (cs : List Char) : Except Failure (NumberText × List Char) := do
  let (whole, cs) ← readWhole cs
  let (fraction?, cs) ← readFraction cs
  let (exponent?, cs) ← readExponent cs
  .ok (⟨negative, whole, fraction?, exponent?⟩, cs)

/-- Reads a number. -/
def readNumber : List Char → Except Failure (NumberText × List Char)
  | '-' :: rest => readUnsigned true rest
  | cs => readUnsigned false cs

namespace NumberText

/-- The number of the exponent. -/
def exponent (n : NumberText) : Int :=
  match n.exponent? with
  | none => 0
  | some (negative, digits) => if negative then -(ofDigits digits : Int) else ofDigits digits

/-- Whether the number is too large for 64-bit binary floating point. -/
def isTooLarge (n : NumberText) : Bool :=
  let fraction := n.fraction?.getD []
  match Binary64.ofDecimal n.negative (ofDigits (n.whole ++ fraction))
      (n.exponent - fraction.length) with
  | .infinite _ => true
  | _ => false

/-- The natural number that is written, if it is one below the limit of offsets. -/
def natural? (n : NumberText) : Option Nat :=
  if n.negative || n.fraction?.isSome || n.exponent?.isSome then none
  else
    let value := ofDigits n.whole
    if value < Offset.limit then some value else none

end NumberText

end SpanSearch.Json
