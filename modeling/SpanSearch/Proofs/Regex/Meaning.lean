import Mathlib.Tactic.Tauto
import SpanSearch.Regex.Basic

/-! # What regular expressions match

An expression matches the part of a text between two places. What matches is told part by part here,
without a limit to repetitions, and the places that are reached are shown to be just the ends of the
parts that match. Repetitions can be cut off because one of many must lead nowhere: there are not
enough places for all of them to lead on.
-/

namespace SpanSearch.Regex

/-- Whether so many steps lead from one place to another. -/
def Repeats (steps : Nat → Nat → Prop) : Nat → Nat → Nat → Prop
  | 0, p, q => p = q
  | n + 1, p, q => ∃ m, steps p m ∧ Repeats steps n m q

/-- Whether the expression matches the part of a text between two places. -/
def Spans (text : Array Char) : Regex → Nat → Nat → Prop
  | empty, p, q => p = q
  | chars set, p, q => q = p + 1 ∧ ∃ c, text[p]? = some c ∧ set.mem c = true
  | look l, p, q => p = q ∧ l.holds (if p = 0 then none else text[p - 1]?) text[p]? = true
  | seq first second, p, q => ∃ m, Spans text first p m ∧ Spans text second m q
  | alt left right, p, q => Spans text left p q ∨ Spans text right p q
  | times body min max, p, q =>
    ∃ more, (∀ most ∈ max, more ≤ most - min) ∧ Repeats (Spans text body) (min + more) p q

/-- Whether the expression matches all of a text. -/
def Matches (r : Regex) (text : List Char) : Prop := Spans text.toArray r 0 text.length

/-- Whether a list of places is followed by just the places to which steps lead from one of them. -/
def Performs (size : Nat) (step : List Nat → List Nat) (steps : Nat → Nat → Prop) : Prop :=
  ∀ places, (∀ p ∈ places, p ≤ size) → ∀ q, q ∈ step places ↔ ∃ p ∈ places, steps p q

/-- Whether steps lead on or stay, and not beyond the end. -/
structure Advances (size : Nat) (steps : Nat → Nat → Prop) : Prop where
  le : ∀ {p q}, steps p q → p ≤ q
  within : ∀ {p q}, p ≤ size → steps p q → q ≤ size

variable {size n p q : Nat} {step : List Nat → List Nat} {steps : Nat → Nat → Prop}
  {places : List Nat} {text : Array Char} {r : Regex}

/-! ## Repetitions -/

theorem Advances.repeats (advances : Advances size steps) (n : Nat) :
    Advances size (Repeats steps n) := by
  induction n with
  | zero =>
    refine ⟨?_, ?_⟩
    · rintro p _ rfl
      exact Nat.le_refl p
    · rintro p _ within rfl
      exact within
  | succ n ih =>
    refine ⟨?_, ?_⟩
    · rintro p q ⟨m, first, others⟩
      exact Nat.le_trans (advances.le first) (ih.le others)
    · rintro p q within ⟨m, first, others⟩
      exact ih.within (advances.within within first) others

theorem repeats_add {m : Nat} :
    Repeats steps (m + n) p q ↔ ∃ o, Repeats steps m p o ∧ Repeats steps n o q := by
  induction m generalizing p with
  | zero =>
    rw [Nat.zero_add]
    exact ⟨fun h => ⟨p, rfl, h⟩, fun ⟨_, same, h⟩ => same ▸ h⟩
  | succ m ih =>
    rw [Nat.succ_add]
    constructor
    · rintro ⟨p', first, others⟩
      obtain ⟨o, before, after⟩ := ih.1 others
      exact ⟨o, ⟨p', first, before⟩, after⟩
    · rintro ⟨o, ⟨p', first, before⟩, after⟩
      exact ⟨p', first, ih.2 ⟨o, before, after⟩⟩

/-- Of more steps than places between, one leads nowhere, so it can be left out or taken twice. -/
theorem Advances.idle (advances : Advances size steps) (repeated : Repeats steps (n + 1) p q)
    (many : q - p < n + 1) : Repeats steps n p q ∧ Repeats steps (n + 2) p q := by
  induction n generalizing p with
  | zero =>
    obtain ⟨m, first, rfl⟩ := repeated
    have := advances.le first
    obtain rfl : p = m := by omega
    exact ⟨rfl, p, first, p, first, rfl⟩
  | succ n ih =>
    obtain ⟨m, first, others⟩ := repeated
    rcases Nat.eq_or_lt_of_le (advances.le first) with rfl | on
    · exact ⟨others, p, first, p, first, others⟩
    · have := (advances.repeats _).le others
      obtain ⟨fewer, more⟩ := ih others (by omega)
      exact ⟨⟨m, first, fewer⟩, m, first, more⟩

/-- As many steps as there are places reach all that more of them reach. -/
theorem Advances.enough (advances : Advances size steps) (within : p ≤ size) (many : size < n) :
    Repeats steps n p q ↔ Repeats steps (size + 1) p q := by
  induction n with
  | zero => omega
  | succ n ih =>
    rcases Nat.eq_or_lt_of_le (Nat.le_of_lt_succ many) with rfl | many
    · rfl
    · rw [← ih many]
      obtain ⟨n, rfl⟩ := Nat.exists_eq_succ_of_ne_zero (Nat.ne_of_gt (Nat.zero_lt_of_lt many))
      constructor
      · intro repeated
        have := (advances.repeats _).within within repeated
        exact (advances.idle repeated (by omega)).1
      · intro repeated
        have := (advances.repeats _).within within repeated
        exact (advances.idle repeated (by omega)).2

/-- Beyond as many steps as there are places, their number is of no account. -/
theorem Advances.limited (advances : Advances size steps) (within : p ≤ size) (min : Nat)
    (max : Option Nat) :
    (∃ k ≤ max.elim (size + 1) fun max => Nat.min (max - min) (size + 1),
        Repeats steps (Nat.min min (size + 1) + k) p q)
      ↔ ∃ more, (∀ most ∈ max, more ≤ most - min) ∧ Repeats steps (min + more) p q := by
  have many {n m : Nat} (n_lt : size < n) (m_lt : size < m) (repeated : Repeats steps n p q) :
      Repeats steps m p q :=
    (advances.enough within m_lt).2 ((advances.enough within n_lt).1 repeated)
  constructor
  · rintro ⟨k, le, repeated⟩
    rcases Nat.lt_or_ge size min with large | small
    · have cut : Nat.min min (size + 1) = size + 1 := Nat.min_eq_right large
      exact ⟨0, fun _ _ => Nat.zero_le _, many (by omega) large repeated⟩
    · have whole : Nat.min min (size + 1) = min := Nat.min_eq_left (Nat.le_succ_of_le small)
      rw [whole] at repeated
      refine ⟨k, ?_, repeated⟩
      rintro most ⟨⟩
      exact (Nat.le_min.1 le).1
  · rintro ⟨more, le, repeated⟩
    rcases Nat.lt_or_ge size min with large | small
    · have cut : Nat.min min (size + 1) = size + 1 := Nat.min_eq_right large
      exact ⟨0, Nat.zero_le _, many (Nat.lt_add_right more large) (by omega) repeated⟩
    · have whole : Nat.min min (size + 1) = min := Nat.min_eq_left (Nat.le_succ_of_le small)
      rw [whole]
      have most (k : Nat) (few : k ≤ size + 1) (within : k ≤ more) :
          k ≤ max.elim (size + 1) fun max => Nat.min (max - min) (size + 1) := by
        cases max with
        | none => exact few
        | some max => exact Nat.le_min.2 ⟨Nat.le_trans within (le max rfl), few⟩
      rcases Nat.lt_or_ge size more with large | small
      · exact ⟨size + 1, most _ (Nat.le_refl _) large, many (by omega) (by omega) repeated⟩
      · exact ⟨more, most _ (Nat.le_succ_of_le small) (Nat.le_refl _), repeated⟩

/-! ## Steps from places -/

theorem mem_mergePlaces {ps qs : List Nat} {o : Nat} :
    o ∈ mergePlaces ps qs ↔ o ∈ ps ∨ o ∈ qs := by
  fun_induction mergePlaces ps qs with
  | case1 => simp
  | case2 => simp
  | case3 p ps q qs less ih => simp [ih, or_assoc]
  | case4 p ps q qs _ less ih => simp [ih, or_left_comm]
  | case5 p ps q qs notLess notGreater ih =>
    obtain rfl : p = q := by omega
    simp only [ih, List.mem_cons]
    tauto

theorem Performs.within (performs : Performs size step steps) (advances : Advances size steps)
    (within : ∀ p ∈ places, p ≤ size) : ∀ q ∈ step places, q ≤ size := by
  intro q mem
  obtain ⟨p, mem, reached⟩ := (performs places within q).1 mem
  exact advances.within (within p mem) reached

theorem stepTimes_of_fixed (fixed : step places = places) (n : Nat) :
    stepTimes step n places = places := by
  cases n with
  | zero => rfl
  | succ n => rw [stepTimes, if_pos (beq_iff_eq.2 fixed)]

theorem Performs.stepTimes (performs : Performs size step steps) (advances : Advances size steps)
    (n : Nat) : Performs size (stepTimes step n) (Repeats steps n) := by
  induction n with
  | zero => simp [Performs, Regex.stepTimes, Repeats]
  | succ n ih =>
    intro places within q
    have next : q ∈ Regex.stepTimes step n (step places)
        ↔ ∃ p ∈ places, Repeats steps (n + 1) p q := by
      rw [ih _ (performs.within advances within)]
      simp only [performs places within, Repeats]
      constructor
      · rintro ⟨m, ⟨p, mem, first⟩, others⟩
        exact ⟨p, mem, m, first, others⟩
      · rintro ⟨p, mem, m, first, others⟩
        exact ⟨m, ⟨p, mem, first⟩, others⟩
    rw [Regex.stepTimes]
    split
    · next same =>
      rw [← next, eq_of_beq same, stepTimes_of_fixed (eq_of_beq same)]
    · exact next

/-- Where no step leads out of what was found, none of many does. -/
theorem mem_of_repeats {found : List Nat} (closed : ∀ p ∈ found, ∀ q, steps p q → q ∈ found)
    (mem : p ∈ found) (repeated : Repeats steps n p q) : q ∈ found := by
  induction n generalizing p with
  | zero => exact repeated ▸ mem
  | succ n ih =>
    obtain ⟨m, first, others⟩ := repeated
    exact ih (closed p mem m first) others

/-- From the places that were found, at most so many steps are taken, if all but the latest places
lead only to what was found. -/
theorem Performs.stepUpTo (performs : Performs size step steps) (advances : Advances size steps)
    {found latest : List Nat} (within : ∀ p ∈ found, p ≤ size) (known : ∀ p ∈ latest, p ∈ found)
    (done : ∀ p ∈ found, p ∉ latest → ∀ q, steps p q → q ∈ found) (n q : Nat) :
    q ∈ stepUpTo step n found latest ↔ ∃ k ≤ n, ∃ p ∈ found, Repeats steps k p q := by
  induction n generalizing found latest q with
  | zero => simp [Regex.stepUpTo, Repeats]
  | succ n ih =>
    obtain ⟨new, eq⟩ : ∃ new, (step latest).filter (!found.contains ·) = new := ⟨_, rfl⟩
    have mem_new (q : Nat) : q ∈ new ↔ (∃ p ∈ latest, steps p q) ∧ q ∉ found := by
      rw [← eq, List.mem_filter, performs latest fun p mem => within p (known p mem)]
      simp
    have leads (p : Nat) (mem : p ∈ found) (q : Nat) (led : steps p q) : q ∈ found ∨ q ∈ new := by
      by_cases last : p ∈ latest
      · by_cases old : q ∈ found
        · exact .inl old
        · exact .inr ((mem_new q).2 ⟨⟨p, last, led⟩, old⟩)
      · exact .inl (done p mem last q led)
    rw [Regex.stepUpTo, eq]
    split
    · next none =>
      have closed (p : Nat) (mem : p ∈ found) (q : Nat) (led : steps p q) : q ∈ found :=
        (leads p mem q led).resolve_right (by rw [List.isEmpty_iff.1 none]; exact List.not_mem_nil)
      constructor
      · exact fun mem => ⟨0, Nat.zero_le _, q, mem, rfl⟩
      · rintro ⟨k, -, p, mem, repeated⟩
        exact mem_of_repeats closed mem repeated
    · have from_found (q : Nat) (mem : q ∈ new) : ∃ p ∈ found, steps p q := by
        obtain ⟨⟨p, last, led⟩, -⟩ := (mem_new q).1 mem
        exact ⟨p, known p last, led⟩
      rw [@ih (mergePlaces found new) new]
      · simp only [mem_mergePlaces]
        constructor
        · rintro ⟨k, le, p, old | new, repeated⟩
          · exact ⟨k, Nat.le_succ_of_le le, p, old, repeated⟩
          · obtain ⟨o, mem, led⟩ := from_found p new
            exact ⟨k + 1, Nat.succ_le_succ le, o, mem, p, led, repeated⟩
        · rintro ⟨_ | k, le, p, mem, repeated⟩
          · exact ⟨0, Nat.zero_le _, p, .inl mem, repeated⟩
          · obtain ⟨m, first, others⟩ := repeated
            exact ⟨k, Nat.le_of_succ_le_succ le, m, leads p mem m first, others⟩
      · intro p mem
        rcases mem_mergePlaces.1 mem with old | new
        · exact within p old
        · obtain ⟨o, mem, led⟩ := from_found p new
          exact advances.within (within o mem) led
      · exact fun p mem => mem_mergePlaces.2 (.inr mem)
      · intro p mem notNew q led
        exact mem_mergePlaces.2 (leads p ((mem_mergePlaces.1 mem).resolve_right notNew) q led)

/-! ## Places that are reached -/

theorem advances_spans (text : Array Char) : (r : Regex) → Advances text.size (Spans text r)
  | empty => ⟨fun same => Nat.le_of_eq same, fun within same => same ▸ within⟩
  | chars set => by
    refine ⟨?_, ?_⟩
    · rintro p _ ⟨rfl, -⟩
      exact Nat.le_succ p
    · rintro p _ - ⟨rfl, c, get, -⟩
      exact (Array.getElem?_eq_some_iff.1 get).1
  | look l => ⟨fun h => Nat.le_of_eq h.1, fun within h => h.1 ▸ within⟩
  | seq first second => by
    have before := advances_spans text first
    have after := advances_spans text second
    refine ⟨?_, ?_⟩
    · rintro p q ⟨m, here, there⟩
      exact Nat.le_trans (before.le here) (after.le there)
    · rintro p q within ⟨m, here, there⟩
      exact after.within (before.within within here) there
  | alt left right => by
    have one := advances_spans text left
    have other := advances_spans text right
    exact ⟨fun h => h.elim one.le other.le, fun within h => h.elim (one.within within)
      (other.within within)⟩
  | times body min max => by
    have inner := advances_spans text body
    refine ⟨?_, ?_⟩
    · rintro p q ⟨more, -, repeated⟩
      exact (inner.repeats _).le repeated
    · rintro p q within ⟨more, -, repeated⟩
      exact (inner.repeats _).within within repeated

/-- The places that are reached are the ends of the parts that match. -/
theorem mem_reach (text : Array Char) : (r : Regex) → Performs text.size (r.reach text) (Spans text r)
  | empty => by simp [Performs, reach, Spans]
  | chars set => by
    intro places within q
    simp only [reach, Spans, List.mem_filterMap]
    refine exists_congr fun p => and_congr_right fun _ => ?_
    cases text[p]? with
    | none => simp only [Option.any_none, Bool.false_eq_true, if_false, reduceCtorEq, false_and,
        exists_false, and_false]
    | some c =>
      rw [Option.any_some, Option.ite_none_right_eq_some]
      constructor
      · rintro ⟨isMember, ⟨⟩⟩
        exact ⟨rfl, c, rfl, isMember⟩
      · rintro ⟨rfl, _, ⟨⟩, isMember⟩
        exact ⟨isMember, rfl⟩
  | look l => by
    intro places within q
    simp only [reach, Spans, List.mem_filter]
    constructor
    · rintro ⟨mem, holds⟩
      exact ⟨q, mem, rfl, holds⟩
    · rintro ⟨p, mem, rfl, holds⟩
      exact ⟨mem, holds⟩
  | seq first second => by
    intro places within q
    have inner := (mem_reach text first).within (advances_spans text first) within
    rw [reach, mem_reach text second _ inner]
    simp only [mem_reach text first places within, Spans]
    constructor
    · rintro ⟨m, ⟨p, mem, here⟩, there⟩
      exact ⟨p, mem, m, here, there⟩
    · rintro ⟨p, mem, m, here, there⟩
      exact ⟨m, ⟨p, mem, here⟩, there⟩
  | alt left right => by
    intro places within q
    rw [reach, mem_mergePlaces, mem_reach text left places within, mem_reach text right places within]
    simp only [Spans, and_or_left, exists_or]
  | times body min max => by
    intro places within q
    have advances := advances_spans text body
    have first := (mem_reach text body).stepTimes advances (Nat.min min (text.size + 1))
    have inner := first.within (advances.repeats _) within
    rw [reach, (mem_reach text body).stepUpTo advances inner (fun _ mem => mem)
      fun p mem absent => absurd mem absent]
    simp only [first places within, Spans]
    constructor
    · rintro ⟨k, le, o, ⟨p, mem, before⟩, after⟩
      exact ⟨p, mem, (advances.limited (within p mem) min max).1
        ⟨k, le, repeats_add.2 ⟨o, before, after⟩⟩⟩
    · rintro ⟨p, mem, repeated⟩
      obtain ⟨k, le, repeated⟩ := (advances.limited (within p mem) min max).2 repeated
      obtain ⟨o, before, after⟩ := repeats_add.1 repeated
      exact ⟨k, le, o, ⟨p, mem, before⟩, after⟩

/-- The expression that matches where another one matches all of the text. -/
def anchored (r : Regex) : Regex := .seq (.look .start) (.seq r (.look .stop))

theorem holds_start (within : p ≤ text.size) :
    Look.start.holds (if p = 0 then none else text[p - 1]?) text[p]? = true ↔ p = 0 := by
  rw [Look.holds]
  split
  · next first => exact iff_of_true rfl first
  · next later =>
    rw [Option.isNone_iff_eq_none, Array.getElem?_eq_none_iff]
    omega

theorem holds_stop (within : p ≤ text.size) :
    Look.stop.holds (if p = 0 then none else text[p - 1]?) text[p]? = true ↔ p = text.size := by
  rw [Look.holds, Option.isNone_iff_eq_none, Array.getElem?_eq_none_iff]
  omega

/-- Some part of a text matches from the start to the end just if all of it matches. -/
theorem matchesIn_anchored (r : Regex) (text : List Char) :
    r.anchored.matchesIn text = true ↔ r.Matches text := by
  have within : ∀ p ∈ List.range (text.toArray.size + 1), p ≤ text.toArray.size := by
    intro p mem
    exact Nat.le_of_lt_succ (List.mem_range.1 mem)
  have some_iff : r.anchored.matchesIn text = true
      ↔ ∃ q p, p ≤ text.toArray.size ∧ Spans text.toArray r.anchored p q := by
    rw [matchesIn, Bool.not_eq_true', List.isEmpty_eq_false_iff_exists_mem]
    simp only [mem_reach text.toArray r.anchored _ within, List.mem_range, Nat.lt_succ_iff]
  have size : text.toArray.size = text.length := List.size_toArray
  rw [some_iff]
  simp only [anchored, Spans, Matches]
  constructor
  · rintro ⟨q, p, le, _, ⟨rfl, atStart⟩, _, matched, rfl, atStop⟩
    have within := (advances_spans _ r).within le matched
    rwa [(holds_start le).1 atStart, (holds_stop within).1 atStop, size] at matched
  · intro matched
    have within : text.length ≤ text.toArray.size := Nat.le_of_eq size.symm
    exact ⟨text.length, 0, Nat.zero_le _, 0, ⟨rfl, (holds_start (Nat.zero_le _)).2 rfl⟩,
      text.length, matched, rfl, (holds_stop within).2 size.symm⟩

end SpanSearch.Regex
