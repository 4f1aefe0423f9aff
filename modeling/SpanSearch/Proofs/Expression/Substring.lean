import Mathlib
import SpanSearch.Proofs.Expression.Evaluated
import SpanSearch.Proofs.Number.Rounding

/-! # Parts of texts

An accepted expression has no value only where an argument of `substring` is no number. Each other
call of it gives the part of the text that its arguments ask for, from a place counted from one,
unless the place is so low that none can be taken from it as a word of 64 bits.
-/

namespace SpanSearch.Expression

open Number

/-- The start reads as minus infinity, or rounds to the least word or to less. It becomes the least
word, from which none can be taken away. -/
inductive Exceeds : List Value → Prop
  | intro {s start : Value} {rest : List Value} {x : Binary64} (start_ : start.toNumber? = some x)
    (low : x = .infinite true ∨ ∃ q, x.rational? = some q ∧ roundAway q ≤ Binary64.leastInt64) :
    Exceeds (s :: start :: rest)

/-- The start is not a number, or the length is not. -/
inductive NotNumeric : List Value → NotNumber → Prop
  | start {s start : Value} {rest : List Value} (start_ : start.toNumber? = none) :
    NotNumeric (s :: start :: rest) ⟨.start, start.toText⟩
  | length {s start length : Value} {rest : List Value} {x : Binary64}
    (start_ : start.toNumber? = some x) (length_ : length.toNumber? = none) :
    NotNumeric (s :: start :: length :: rest) ⟨.length, length.toText⟩

/-- The part of a text that finite arguments ask for: from the place of the rounded start on, counted
from one, all or as many characters as the rounded length. -/
inductive Cuts : List Value → List Char → Prop
  | all {s start : Value} {x : Binary64} {q : ℚ} (start_ : start.toNumber? = some x)
    (finite : x.rational? = some q) :
    Cuts [s, start] (s.toText.toList.drop (max 1 (roundAway q) - 1).toNat)
  | most {s start length : Value} {x n : Binary64} {q r : ℚ} (start_ : start.toNumber? = some x)
    (finite : x.rational? = some q) (length_ : length.toNumber? = some n)
    (finite_ : n.rational? = some r) :
    Cuts [s, start, length]
      ((s.toText.toList.drop (max 1 (roundAway q) - 1).toNat).take (max 0 (roundAway r)).toNat)

/-- Whether the first of some values is a text of less than the greatest word, as any text in a memory
is. -/
def Short (values : List Value) : Prop :=
  ∀ s ∈ values.head?, (s.toText.toList.length : Int) < Binary64.greatestInt64

section

variable {f : Function} {values rest : List Value} {s start : Value} {x : Binary64} {q : ℚ}
  {reason : NotNumber} {cs : List Char}

theorem exceeds_iff (start_ : start.toNumber? = some x) :
    Exceeds (s :: start :: rest) ↔ x.toInt64 = Binary64.leastInt64 := by
  rw [Binary64.toInt64_eq_leastInt64_iff]
  constructor
  · intro exceeds
    cases exceeds with
    | intro start' low =>
      cases start_.symm.trans start'
      exact low
  · exact .intro start_

theorem run_eq_overflow_iff (takes : f.takes values.length = true) :
    f.run values = .error .overflow ↔ f = .substring ∧ Exceeds values := by
  by_cases isSubstring : f = .substring
  · subst isSubstring
    obtain ⟨s, start, rest, rfl⟩ := exists_of_takes takes
    rw [eq_self, true_and]
    cases start_ : start.toNumber? with
    | none =>
      have nowhere : ¬ Exceeds (s :: start :: rest) := by
        rintro ⟨start', -⟩
        cases start_.symm.trans start'
      simp [run_noStart start_, lift_ne_overflow, nowhere]
    | some x => simp [run_start start_, exceeds_iff start_, lift_ne_overflow]
  · obtain ⟨value, -, run⟩ := exists_run_eq isSubstring takes
    simp [run, isSubstring]

theorem apply_eq_error_iff (takes : f.takes values.length = true) :
    f.apply values = .error reason ↔ f = .substring ∧ NotNumeric values reason := by
  by_cases isSubstring : f = .substring
  · subst isSubstring
    rw [eq_self, true_and]
    constructor
    · intro failed
      obtain ⟨s, start, rest, rfl⟩ := exists_of_takes takes
      cases start_ : start.toNumber? with
      | none =>
        simp [Function.apply, start_] at failed
        subst failed
        exact .start start_
      | some x =>
        cases rest with
        | nil => simp [Function.apply, start_] at failed
        | cons length rest =>
          cases length_ : length.toNumber? with
          | none =>
            simp [Function.apply, start_, length_] at failed
            subst failed
            exact .length start_ length_
          | some n => simp [Function.apply, start_, length_] at failed
    · intro notNumeric
      cases notNumeric with
      | start start_ => simp [Function.apply, start_]
      | length start_ length_ => simp [Function.apply, start_, length_]
  · obtain ⟨value, applied, -⟩ := exists_run_eq isSubstring takes
    simp [applied, isSubstring]

theorem drop_zeroBased {text : List Char} (short : (text.length : Int) < Binary64.greatestInt64)
    (finite : x.rational? = some q) (notLeast : x.toInt64 ≠ Binary64.leastInt64) :
    text.drop (zeroBased x) = text.drop (max 1 (roundAway q) - 1).toNat := by
  have rounded := Binary64.toInt64_eq finite
  rw [zeroBased_eq notLeast]
  simp only [Binary64.leastInt64, Binary64.greatestInt64] at *
  by_cases within : roundAway q ≤ 9223372036854775807
  · congr 1
    omega
  · rw [List.drop_eq_nil_of_le (by omega), List.drop_eq_nil_of_le (by omega)]

theorem drop_least {text : List Char} (short : (text.length : Int) < Binary64.greatestInt64)
    (least : x.toInt64 = Binary64.leastInt64) : text.drop (zeroBased x) = [] := by
  apply List.drop_eq_nil_of_le
  simp only [zeroBased, least, beq_self_eq_true, if_true]
  omega

theorem take_toNat64 {text : List Char} (short : (text.length : Int) < Binary64.greatestInt64)
    (finite : x.rational? = some q) :
    text.take x.toNat64 = text.take (max 0 (roundAway q)).toNat := by
  have greatest : Nat.pow 2 64 - 1 = 18446744073709551615 := rfl
  rw [Binary64.toNat64_eq finite, greatest]
  simp only [Binary64.greatestInt64] at short
  by_cases within : (roundAway q).toNat ≤ 18446744073709551615
  · congr 1
    omega
  · rw [List.take_of_length_le (by omega), List.take_of_length_le (by omega)]

theorem apply_of_cuts (short : Short values) (cuts : Cuts values cs) (within : ¬ Exceeds values) :
    Function.substring.apply values = .ok (.text (String.ofList cs)) := by
  cases cuts with
  | all start_ finite =>
    have notLeast := (exceeds_iff start_).not.1 within
    have shortText := short _ rfl
    rw [← drop_zeroBased shortText finite notLeast]
    simp [Function.apply, start_]
  | @most s _ _ _ _ _ _ start_ finite length_ finite_ =>
    have notLeast := (exceeds_iff start_).not.1 within
    have shortText := short _ rfl
    have shortTail (k : Nat) :
        ((s.toText.toList.drop k).length : Int) < Binary64.greatestInt64 := by
      rw [List.length_drop]
      exact Int.lt_of_le_of_lt (Int.ofNat_le.2 (Nat.sub_le _ k)) shortText
    rw [← drop_zeroBased shortText finite notLeast, ← take_toNat64 (shortTail _) finite_]
    simp [Function.apply, start_, length_]

theorem apply_of_exceeds (short : Short values) (cuts : Cuts values cs) (exceeds : Exceeds values) :
    Function.substring.apply values = .ok (.text "") := by
  cases cuts with
  | all start_ finite =>
    have least := (exceeds_iff start_).1 exceeds
    simp [Function.apply, start_, drop_least (short _ rfl) least]
  | most start_ finite length_ finite_ =>
    have least := (exceeds_iff start_).1 exceeds
    simp [Function.apply, start_, length_, drop_least (short _ rfl) least]

/-- A call gives the part that its arguments ask for, unless the place is too low and there is
something to give. -/
theorem apply_iff_of_cuts (short : Short values) (cuts : Cuts values cs) :
    Function.substring.apply values = .ok (.text (String.ofList cs))
      ↔ Exceeds values → cs = [] := by
  by_cases exceeds : Exceeds values
  · rw [apply_of_exceeds short cuts exceeds]
    simp [exceeds]
  · simp [apply_of_cuts short cuts exceeds, exceeds]

end

/-! ## Accepted expressions -/

section

variable {tokens : List Token} {a : Annotation} {t : Term} {reason : NotNumber}

/-- Whether a term itself takes one from the least word, or adds words to more than the greatest. -/
inductive Overflows (tokens : List Token) (a : Annotation) : Term → Prop
  | place {arguments : List Term} {values : List Value}
    (evaluated : Term.evalList tokens a arguments = .ok values) (exceeds : Exceeds values) :
    Overflows tokens a (.call .substring arguments)
  | stop (beyond : Offset.limit ≤ a.start + a.size) : Overflows tokens a (.var .value)

/-- Whether a term is a call of `substring` with an argument that should be a number and is none. -/
inductive Fails (tokens : List Token) (a : Annotation) (reason : NotNumber) : Term → Prop
  | call {arguments : List Term} {values : List Value}
    (evaluated : Term.evalList tokens a arguments = .ok values)
    (notNumeric : NotNumeric values reason) : Fails tokens a reason (.call .substring arguments)

theorem stopsAt_run_iff (applied : Applied t) :
    StopsAt tokens a (·.run tokens a) Function.run .overflow t ↔ Overflows tokens a t := by
  constructor
  · intro stops
    cases stops with
    | @var v stopped =>
      cases v with
      | value =>
        rw [run_value] at stopped
        split at stopped
        · cases stopped
        · next beyond => exact .stop (Nat.le_of_not_lt beyond)
      | type | size | start => cases stopped
    | call evaluated stopped =>
      cases applied with
      | call takes _ =>
        rw [run_eq_overflow_iff (by rwa [length_evalList evaluated])] at stopped
        obtain ⟨rfl, exceeds⟩ := stopped
        exact .place evaluated exceeds
  · intro overflows
    cases overflows with
    | place evaluated exceeds =>
      cases applied with
      | call takes _ =>
        refine .call evaluated ?_
        rw [run_eq_overflow_iff (by rwa [length_evalList evaluated])]
        exact ⟨rfl, exceeds⟩
    | stop beyond =>
      refine .var ?_
      rw [run_value, if_neg (Nat.not_lt.2 beyond)]

theorem stopsAt_eval_iff (applied : Applied t) :
    StopsAt tokens a (fun v => .ok (v.eval tokens a)) Function.apply reason t
      ↔ Fails tokens a reason t := by
  constructor
  · intro stops
    cases stops with
    | var stopped => cases stopped
    | call evaluated stopped =>
      cases applied with
      | call takes _ =>
        rw [apply_eq_error_iff (by rwa [length_evalList evaluated])] at stopped
        obtain ⟨rfl, notNumeric⟩ := stopped
        exact .call evaluated notNumeric
  · intro fails
    cases fails with
    | call evaluated notNumeric =>
      cases applied with
      | call takes _ =>
        refine .call evaluated ?_
        rw [apply_eq_error_iff (by rwa [length_evalList evaluated])]
        exact ⟨rfl, notNumeric⟩

/-- How an evaluation goes, with checks and without. -/
structure Evaluation (tokens : List Token) (a : Annotation) (body : Term) : Prop where
  /-- No argument is asked for that is not there. -/
  arguments : body.run tokens a ≠ .error .missing
  /-- A sum or a difference is no word just where one of the terms that are evaluated makes it. -/
  overflow :
    body.run tokens a = .error .overflow ↔ ∃ t, Evaluated tokens a body t ∧ Overflows tokens a t
  /-- Otherwise the checks make no difference. -/
  value : body.run tokens a ≠ .error .overflow → body.run tokens a = lift (body.eval tokens a)
  /-- There is no value just where a call of `substring` that is evaluated fails. -/
  failure (reason : NotNumber) :
    body.eval tokens a = .error reason ↔ ∃ t, Evaluated tokens a body t ∧ Fails tokens a reason t
  /-- A call of `substring` with finite arguments gives the part of the text that these ask for, just
  where it does not take one from the least word, or there is nothing to give. -/
  part {arguments : List Term} {values : List Value} {cs : List Char} :
    Evaluated tokens a body (.call .substring arguments) →
      Term.evalList tokens a arguments = .ok values → Short values → Cuts values cs →
        ((Term.call .substring arguments).eval tokens a = .ok (.text (String.ofList cs))
          ↔ (Overflows tokens a (.call .substring arguments) → cs = []))

/-- The text from the second place on. -/
def fromSecond : Expression :=
  ⟨"substring('abc', '2')", .call .substring [.constant (.text "abc"), .constant (.text "2")]⟩

/-- The text from a place on that is far below the first one. -/
def fromFarBelow : Expression :=
  ⟨"substring('abc', '-1e19')",
    .call .substring [.constant (.text "abc"), .constant (.text "-1e19")]⟩

end

end SpanSearch.Expression
