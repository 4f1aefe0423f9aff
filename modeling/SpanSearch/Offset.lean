/-! # Offsets

Offsets into a sequence of tokens, and sizes of spans, are words of 64 bits. Their sums and
differences wrap, so that a span whose end exceeds the greatest word ends early.
-/

namespace SpanSearch.Offset

/-- One more than the greatest offset. -/
def limit : Nat := Nat.pow 2 64

/-- The greatest offset. It also stands for a count without a limit. -/
def greatest : Nat := limit - 1

/-- The sum of two offsets. -/
def add (a b : Nat) : Nat := (a + b) % limit

/-- The difference of two offsets. -/
def sub (a b : Nat) : Nat := (a + limit - b) % limit

theorem add_lt (a b : Nat) : add a b < limit := Nat.mod_lt _ (by decide)

theorem add_eq {a b : Nat} (h : a + b < limit) : add a b = a + b := Nat.mod_eq_of_lt h

end SpanSearch.Offset
