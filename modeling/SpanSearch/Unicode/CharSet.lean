import SpanSearch.Number.Digit

/-! # Sets of characters

A set of characters is kept as the ascending list of the code points at which membership changes:
a code point belongs to the set when an odd number of these boundaries do not exceed it. Union,
intersection and the other operations are one sweep over two such lists.
-/

namespace SpanSearch.Unicode

/-- The number of boundaries among `bounds[lo], …, bounds[hi - 1]`, plus `lo`, that do not exceed
`n`, found by halving. The fuel is a bound on the number of halvings. -/
def countUpTo (bounds : Array Nat) (n : Nat) : (fuel lo hi : Nat) → Nat
  | 0, lo, _ => lo
  | fuel + 1, lo, hi =>
    if lo < hi then
      let mid := (lo + hi) / 2
      if (bounds[mid]?).getD 0 ≤ n then countUpTo bounds n fuel (mid + 1) hi
      else countUpTo bounds n fuel lo mid
    else lo

/-- A set of characters, by the code points at which membership changes. -/
structure CharSet where
  bounds : Array Nat
  deriving DecidableEq

namespace CharSet

/-- Whether a code point is in the set. -/
def memCode (set : CharSet) (n : Nat) : Bool :=
  countUpTo set.bounds n 32 0 set.bounds.size % 2 == 1

/-- Whether a character is in the set. -/
def mem (set : CharSet) (c : Char) : Bool := set.memCode c.toNat

/-- The set without characters. -/
def empty : CharSet := ⟨#[]⟩

/-- The set of all characters. -/
def full : CharSet := ⟨#[0]⟩

/-- The characters from `lo` to `hi`, both included. -/
def range (lo hi : Nat) : CharSet := ⟨#[lo, hi + 1]⟩

/-- The set of one character. -/
def singleton (c : Char) : CharSet := range c.toNat c.toNat

/-- The boundaries of a combination of two sets. Below the boundaries that are left, `p` and `q`
tell whether a code point is in either set and `r` whether it is in the combination. -/
def sweep (op : Bool → Bool → Bool) (p q r : Bool) : List Nat → List Nat → List Nat
  | [], [] => []
  | x :: xs, [] => keep x r (op (!p) q) (sweep op (!p) q (op (!p) q) xs [])
  | [], y :: ys => keep y r (op p (!q)) (sweep op p (!q) (op p (!q)) [] ys)
  | x :: xs, y :: ys =>
    if x < y then keep x r (op (!p) q) (sweep op (!p) q (op (!p) q) xs (y :: ys))
    else if y < x then keep y r (op p (!q)) (sweep op p (!q) (op p (!q)) (x :: xs) ys)
    else keep x r (op (!p) (!q)) (sweep op (!p) (!q) (op (!p) (!q)) xs ys)
termination_by xs ys => xs.length + ys.length
where
  /-- A code point is a boundary when membership differs on its two sides. -/
  keep (n : Nat) (before after : Bool) (rest : List Nat) : List Nat :=
    if before == after then rest else n :: rest

/-- The set of the code points whose membership in two sets satisfies `op`, which holds of no code
point that is in neither. -/
def combine (op : Bool → Bool → Bool) (a b : CharSet) : CharSet :=
  ⟨(sweep op false false false a.bounds.toList b.bounds.toList).toArray⟩

/-- The characters in either set. -/
def union (a b : CharSet) : CharSet := combine (· || ·) a b

/-- The characters in both sets. -/
def inter (a b : CharSet) : CharSet := combine (· && ·) a b

/-- The characters in the first set and not in the second. -/
def diff (a b : CharSet) : CharSet := combine (fun p q => p && !q) a b

/-- The characters in just one of two sets. -/
def symmDiff (a b : CharSet) : CharSet := combine Bool.xor a b

/-- The characters that are not in the set. -/
def complement (set : CharSet) : CharSet := full.diff set

/-- The set of the given code points. -/
def ofCodes (codes : List Nat) : CharSet :=
  let sorted := codes.mergeSort
  let bounds := sorted.foldl (fun (acc : List Nat) n =>
    match acc with
    | stop :: rest =>
      if n + 1 = stop then acc
      else if n = stop then (n + 1) :: rest
      else (n + 1) :: n :: acc
    | [] => [n + 1, n]) []
  ⟨bounds.reverse.toArray⟩

/-- Whether every character of the set is an ASCII character. -/
def isAscii (set : CharSet) : Bool := (set.inter (range 0x80 0x10FFFF)).bounds.isEmpty

/-- The boundaries of ranges written in ascending order as `41-5A`, or as `AA` for a range of one
code point. `start` is the start of an open range, `n` the number read so far. -/
def hexBounds (start n : Option Nat) : List Char → List Nat
  | [] => close start n
  | c :: cs =>
    match Number.hexValue? c with
    | some d => hexBounds start (some (16 * n.getD 0 + d)) cs
    | none => if c == '-' then hexBounds n none cs else close start n ++ hexBounds none none cs
where
  /-- The boundaries of the range that ends here. -/
  close : Option Nat → Option Nat → List Nat
    | some a, some b => [a, b + 1]
    | none, some b => [b, b + 1]
    | _, none => []

/-- The set of the ranges in a text such as `41-5A 61-7A AA`, in ascending order. -/
def ofHex (text : String) : CharSet := ⟨(hexBounds none none text.toList).toArray⟩

end CharSet

end SpanSearch.Unicode
