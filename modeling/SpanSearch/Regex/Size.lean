import SpanSearch.Regex.Basic

/-! # The size of regular expressions

An expression may be short and still stand for a very long one, since repetitions can be nested. So
there is a limit to the space that an expression takes when its repetitions are written out. The
space is estimated: a state takes 32 bytes, and a set of characters beyond ASCII has several states
for each of its ranges.
-/

namespace SpanSearch.Regex

open Unicode

/-- The space of a state. -/
def stateSpace : Nat := 32

/-- The space of a range of characters from `low` up to `high`. -/
def rangeSpace (low high : Nat) : Nat :=
  if high < 0x80 then 8
  else if high - low < 0x10000 then 80
  else 400

/-- The space of ranges of characters, each given by its start and by the start of what follows. The
last range may extend to the greatest character. -/
def rangesSpace : List Nat → Nat
  | low :: after :: rest => rangeSpace low (after - 1) + rangesSpace rest
  | [low] => rangeSpace low 0x10FFFF
  | [] => 0

/-- The space of a set of characters. -/
def setSpace (set : CharSet) : Nat := max stateSpace (rangesSpace set.bounds.toList)

/-- Whether the expression matches no text except the empty one. -/
def isOnlyEmpty : Regex → Bool
  | empty => true
  | chars _ => false
  | look _ => true
  | seq first second => first.isOnlyEmpty && second.isOnlyEmpty
  | alt left right => left.isOnlyEmpty && right.isOnlyEmpty
  | times body _ max => body.isOnlyEmpty || max == some 0

/-- The space of an expression when its repetitions are written out. To repeat what has no text is
of no use, so this is not written out. -/
def space : Regex → Nat
  | empty => stateSpace
  | chars set => setSpace set
  | look _ => stateSpace
  | seq first second => first.space + second.space
  | alt left right => left.space + right.space + stateSpace
  | times body min max =>
    let copies := if body.isOnlyEmpty then 1 else (max.getD min).max 1
    copies * (body.space + if max == some min then 0 else stateSpace)

/-- The limit to the space of an expression. -/
def spaceLimit : Nat := 10485760

end SpanSearch.Regex
