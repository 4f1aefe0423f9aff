import Mathlib.Data.List.TakeDrop

/-! # Reading by positions

The readers of this library are given what is left of a list and give back what they leave. A
program that keeps the whole list and counts positions in it does the same, as long as no position
leaves the list and no recursion goes too deep. Here such a program is a `Run`: each access by an
index or a range is checked, each recursion has a depth granted to it, and a run stops where one of
them fails. `Agrees` relates the two ways to read, and leaves no room for either stop.
-/

namespace SpanSearch.Cursor

variable {α β γ δ ε ε' τ : Type}

/-- Why a run gives no value. -/
inductive Halt (ε : Type) where
  /-- An index or a range is not within the list. -/
  | outOfRange
  /-- A recursion goes deeper than it was granted. -/
  | exhausted
  /-- What is read is at fault. -/
  | fault (reason : ε)
  deriving DecidableEq

/-- A computation that stops at the first access out of range and at the first fault. -/
abbrev Run (ε : Type) := Except (Halt ε)

/-- A run that ends with a fault. -/
def fail (reason : ε) : Run ε α := .error (.fault reason)

/-! ## Access -/

/-- The item at a place. -/
def item (xs : List τ) (i : Nat) : Run ε τ :=
  match xs[i]? with
  | some x => .ok x
  | none => .error .outOfRange

/-- The items from one place on up to another. -/
def slice (xs : List τ) (start stop : Nat) : Run ε (List τ) :=
  if start ≤ stop ∧ stop ≤ xs.length then .ok ((xs.drop start).take (stop - start))
  else .error .outOfRange

/-- The first place from `i` on with an item other than those that `p` holds for, or the end. -/
def pass (p : τ → Bool) (xs : List τ) (i : Nat) : Nat :=
  if h : i < xs.length then if p xs[i] then pass p xs (i + 1) else i else i
termination_by xs.length - i

/-- The place that `pass` finds, by means of indices. -/
def advance (p : τ → Bool) (xs : List τ) (i : Nat) : Run ε Nat :=
  if i < xs.length then do
    if p (← item xs i) then advance p xs (i + 1) else .ok i
  else .ok i
termination_by xs.length - i

/-- At a place there is nothing, or an item with the rest behind it. -/
theorem peek_cases (xs : List τ) (i : Nat) :
    (xs[i]? = none ∧ xs.drop i = []) ∨
      ∃ x, xs[i]? = some x ∧ xs.drop i = x :: xs.drop (i + 1) ∧ i < xs.length := by
  rcases Nat.lt_or_ge i xs.length with lt | ge
  · exact .inr ⟨xs[i], List.getElem?_eq_getElem lt, List.drop_eq_getElem_cons lt, lt⟩
  · exact .inl ⟨List.getElem?_eq_none ge, List.drop_eq_nil_of_le ge⟩

/-- At a place there is the item that is looked for, with the rest behind it, or there is not. -/
theorem find_cases [DecidableEq τ] (xs : List τ) (x : τ) (i : Nat) :
    (xs[i]? = some x ∧ xs.drop i = x :: xs.drop (i + 1) ∧ i < xs.length) ∨
      ((xs[i]? == some x) = false ∧ ∀ rest, xs.drop i ≠ x :: rest) := by
  obtain ⟨get, nil⟩ | ⟨y, get, cons, lt⟩ := peek_cases xs i
  · right
    simp [get, nil]
  · rcases eq_or_ne y x with rfl | ne
    · exact .inl ⟨get, cons, lt⟩
    · right
      simp [get, cons, ne]

theorem item_eq {xs : List τ} {i : Nat} {x : τ} (get : xs[i]? = some x) :
    (item xs i : Run ε τ) = .ok x := by
  simp [item, get]

theorem slice_eq {xs : List τ} {start stop : Nat} (order : start ≤ stop) (most : stop ≤ xs.length) :
    (slice xs start stop : Run ε (List τ)) = .ok ((xs.drop start).take (stop - start)) := by
  simp [slice, order, most]

section

variable {p : τ → Bool} {xs : List τ} {i : Nat}

theorem le_pass : i ≤ pass p xs i := by
  fun_induction pass p xs i <;> omega

theorem pass_le (most : i ≤ xs.length) : pass p xs i ≤ xs.length := by
  fun_induction pass p xs i with
  | case1 i lt _ ih => exact ih lt
  | case2 | case3 => exact most

theorem pass_succ {x : τ} (get : xs[i]? = some x) (holds : p x = true) :
    pass p xs i = pass p xs (i + 1) := by
  obtain ⟨lt, rfl⟩ := List.getElem?_eq_some_iff.1 get
  rw [pass, dif_pos lt, if_pos holds]

theorem drop_pass : xs.drop (pass p xs i) = (xs.drop i).dropWhile p := by
  fun_induction pass p xs i with
  | case1 i lt holds ih => rw [ih, List.drop_eq_getElem_cons lt, List.dropWhile_cons, if_pos holds]
  | case2 i lt fails => rw [List.drop_eq_getElem_cons lt, List.dropWhile_cons, if_neg fails]
  | case3 i ge => rw [List.drop_eq_nil_of_le (Nat.le_of_not_lt ge), List.dropWhile_nil]

theorem pass_eq_add : pass p xs i = i + ((xs.drop i).takeWhile p).length := by
  fun_induction pass p xs i with
  | case1 i lt holds ih =>
    rw [ih, List.drop_eq_getElem_cons lt, List.takeWhile_cons, if_pos holds, List.length_cons]
    omega
  | case2 i lt fails =>
    rw [List.drop_eq_getElem_cons lt, List.takeWhile_cons, if_neg fails, List.length_nil]
    rfl
  | case3 i ge => rw [List.drop_eq_nil_of_le (Nat.le_of_not_lt ge), List.takeWhile_nil]; rfl

/-- What is passed over is what `p` holds for. -/
theorem slice_pass (most : i ≤ xs.length) :
    (slice xs i (pass p xs i) : Run ε (List τ)) = .ok ((xs.drop i).takeWhile p) := by
  rw [slice_eq le_pass (pass_le most), pass_eq_add, Nat.add_sub_cancel_left]
  congr 1
  exact List.prefix_iff_eq_take.1 (List.takeWhile_prefix p) |>.symm

theorem advance_eq : (advance p xs i : Run ε Nat) = .ok (pass p xs i) := by
  fun_induction pass p xs i with
  | case1 i lt holds ih =>
    rw [advance, if_pos lt, item_eq (List.getElem?_eq_getElem lt)]
    simpa [holds, bind, Except.bind] using ih
  | case2 i lt fails =>
    rw [advance, if_pos lt, item_eq (List.getElem?_eq_getElem lt)]
    simp [fails, bind, Except.bind]
  | case3 i ge => rw [advance, if_neg ge]

end

/-! ## Agreement -/

/-- An attempt and a run agree if both give values, which `R` relates, or both end with a fault,
and `E` relates the faults. -/
inductive Agrees (E : ε → ε' → Prop) (R : α → β → Prop) : Except ε α → Run ε' β → Prop
  | ok {a b} : R a b → Agrees E R (.ok a) (.ok b)
  | fault {e e'} : E e e' → Agrees E R (.error e) (.error (.fault e'))

/-- A value with what is left behind it, and the same value with the place where that starts, which
is at `i` or later. -/
inductive Reached (xs : List τ) (i : Nat) : α × List τ → α × Nat → Prop
  | intro (v : α) {j : Nat} : i ≤ j → j ≤ xs.length → Reached xs i (v, xs.drop j) (v, j)

section

variable {E : ε → ε' → Prop} {R : α → β → Prop} {S : γ → δ → Prop} {xs : List τ} {i j : Nat}

theorem Agrees.mono {R' : α → β → Prop} {x : Except ε α} {y : Run ε' β} (agrees : Agrees E R x y)
    (weaker : ∀ a b, R a b → R' a b) : Agrees E R' x y := by
  cases agrees with
  | ok related => exact .ok (weaker _ _ related)
  | fault related => exact .fault related

theorem ok_bind (a : α) (f : α → Except ε β) : (Except.ok a >>= f) = f a := rfl

/-- What goes on in agreement from related values agrees as a whole. -/
theorem Agrees.bind {x : Except ε α} {y : Run ε' β} {f : α → Except ε γ} {g : β → Run ε' δ}
    (agrees : Agrees E R x y) (next : ∀ a b, R a b → Agrees E S (f a) (g b)) :
    Agrees E S (x >>= f) (y >>= g) := by
  cases agrees with
  | ok related => exact next _ _ related
  | fault related => exact .fault related

theorem Agrees.map {x : Except ε α} {y : Run ε' β} {f : α → γ} {g : β → δ}
    (agrees : Agrees E R x y) (next : ∀ a b, R a b → S (f a) (g b)) :
    Agrees E S (x.map f) (y.map g) := by
  cases agrees with
  | ok related => exact .ok (next _ _ related)
  | fault related => exact .fault related

/-- The value may be changed alike on both sides. -/
theorem Reached.map {a : α × List τ} {b : α × Nat} (f : α → γ) (reached : Reached xs i a b) :
    Reached xs i (f a.1, a.2) (f b.1, b.2) := by
  cases reached with
  | intro v least most => exact .intro (f v) least most

theorem Reached.mono {a : α × List τ} {b : α × Nat} (reached : Reached xs i a b) (le : j ≤ i) :
    Reached xs j a b := by
  cases reached with
  | intro v least most => exact .intro v (Nat.le_trans le least) most

theorem Agrees.earlier {x : Except ε (α × List τ)} {y : Run ε' (α × Nat)}
    (agrees : Agrees E (Reached xs i) x y) (le : j ≤ i) : Agrees E (Reached xs j) x y :=
  agrees.mono fun _ _ reached => reached.mono le

theorem related_map {R : α → β → Prop} {S : γ → δ → Prop} {x : Option α} {y : Option β} {f : α → γ}
    {g : β → δ} (related : Option.Rel R x y) (next : ∀ a b, R a b → S (f a) (g b)) :
    Option.Rel S (x.map f) (y.map g) := by
  cases related with
  | some h => exact .some (next _ _ h)
  | none => exact .none

theorem related_cases {x : Option (α × List τ)} {y : Option (α × Nat)}
    (related : Option.Rel (Reached xs i) x y) :
    (x = none ∧ y = none) ∨
      ∃ v j, x = some (v, xs.drop j) ∧ y = some (v, j) ∧ i ≤ j ∧ j ≤ xs.length := by
  cases related with
  | none => exact .inl ⟨rfl, rfl⟩
  | some reached =>
    cases reached with
    | @intro v j least most => exact .inr ⟨v, j, rfl, rfl, least, most⟩

/-- `Agrees.bind` after something was read. -/
theorem Agrees.bind_reached {x : Except ε (α × List τ)} {y : Run ε' (α × Nat)}
    {f : α × List τ → Except ε γ} {g : α × Nat → Run ε' δ} (agrees : Agrees E (Reached xs i) x y)
    (next : ∀ v j, i ≤ j → j ≤ xs.length → Agrees E S (f (v, xs.drop j)) (g (v, j))) :
    Agrees E S (x >>= f) (y >>= g) := by
  apply agrees.bind
  intro a b reached
  cases reached with
  | intro v least most => exact next v _ least most

end

end SpanSearch.Cursor
