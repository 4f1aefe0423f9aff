import SpanSearch.Unicode.Word

/-! # Regular expressions

A regular expression is built from sets of characters and from conditions on the place between two
characters. Its meaning is the set of places it leads to from a given set of places, where a place
of a text is the number of characters before it.
-/

namespace SpanSearch

open Unicode

/-- A condition on a place in a text. For conditions on words, `wide` tells whether the characters
of words are those of all scripts or of ASCII. -/
inductive Look where
  | start
  | stop
  /-- The start of a line. With `returns`, carriage returns end lines too. -/
  | lineStart (returns : Bool)
  /-- The end of a line. -/
  | lineStop (returns : Bool)
  | wordEdge (wide : Bool)
  | noWordEdge (wide : Bool)
  | wordStart (wide : Bool)
  | wordStop (wide : Bool)
  | noWordBefore (wide : Bool)
  | noWordAfter (wide : Bool)
  deriving DecidableEq

/-- Whether the condition holds between the character `before` and the character `after`, of which
either may be missing. -/
def Look.holds (before after : Option Char) : Look → Bool
  | start => before.isNone
  | stop => after.isNone
  | lineStart returns =>
    before.isNone || before == some '\n' || (returns && before == some '\r' && after != some '\n')
  | lineStop returns =>
    after.isNone || (after == some '\n' && !(returns && before == some '\r'))
      || (returns && after == some '\r')
  | wordEdge wide => before.any (isWordChar wide) != after.any (isWordChar wide)
  | noWordEdge wide => before.any (isWordChar wide) == after.any (isWordChar wide)
  | wordStart wide => !before.any (isWordChar wide) && after.any (isWordChar wide)
  | wordStop wide => before.any (isWordChar wide) && !after.any (isWordChar wide)
  | noWordBefore wide => !before.any (isWordChar wide)
  | noWordAfter wide => !after.any (isWordChar wide)

/-- A regular expression. -/
inductive Regex where
  | empty
  | chars (set : CharSet)
  | look (look : Look)
  | seq (first second : Regex)
  | alt (left right : Regex)
  /-- At least `min` times, and at most `max` times if there is a maximum. -/
  | times (body : Regex) (min : Nat) (max : Option Nat)
  deriving DecidableEq

namespace Regex

/-- The places of two ascending lists, in ascending order and each once. -/
def mergePlaces : List Nat → List Nat → List Nat
  | [], qs => qs
  | ps, [] => ps
  | p :: ps, q :: qs =>
    if p < q then p :: mergePlaces ps (q :: qs)
    else if q < p then q :: mergePlaces (p :: ps) qs
    else p :: mergePlaces ps qs
termination_by ps qs => ps.length + qs.length

/-- The places after `count` steps. When a step leads nowhere else, no further step does. -/
def stepTimes (step : List Nat → List Nat) : (count : Nat) → List Nat → List Nat
  | 0, places => places
  | count + 1, places =>
    let next := step places
    if next == places then places else stepTimes step count next

/-- The places after at most `count` steps from the places `latest`, and the places `found`. -/
def stepUpTo (step : List Nat → List Nat) : (count : Nat) → (found latest : List Nat) → List Nat
  | 0, found, _ => found
  | count + 1, found, latest =>
    let new := (step latest).filter (!found.contains ·)
    if new.isEmpty then found else stepUpTo step count (mergePlaces found new) new

/-- The places to which the expression leads from some of the given places. A text has one place
more than characters, so as many steps reach every place that any number of steps reaches. -/
def reach (text : Array Char) : Regex → List Nat → List Nat
  | empty, places => places
  | chars set, places =>
    places.filterMap fun p => if (text[p]?).any set.mem then some (p + 1) else none
  | look l, places =>
    places.filter fun p => l.holds (if p = 0 then none else text[p - 1]?) text[p]?
  | seq first second, places => reach text second (reach text first places)
  | alt left right, places => mergePlaces (reach text left places) (reach text right places)
  | times body min max, places =>
    let enough := text.size + 1
    let start := stepTimes (reach text body) (Nat.min min enough) places
    let more := max.elim enough fun max => Nat.min (max - min) enough
    stepUpTo (reach text body) more start start

/-- Whether the expression matches some part of the text. -/
def matchesIn (r : Regex) (text : List Char) : Bool :=
  let text := text.toArray
  !(r.reach text (List.range (text.size + 1))).isEmpty

end Regex

end SpanSearch
