import SpanSearch.Expression.Eval
import SpanSearch.Proofs.Pattern.Values

/-! # Equal values

A constraint compares texts, and a test compares texts that can be read as numbers by their numbers.
Every text but one kind is equal to itself in both ways: a text that reads as what is not a number
meets the constraint that asks for it, and in a test it is unequal to itself.
-/

namespace SpanSearch

namespace Number

/-- The word for what is not a number, in any case, after a sign or without. -/
inductive SpellsNan : List Char → Prop where
  | bare {word : List Char} : word.map Char.toLower = "nan".toList → SpellsNan word
  | signed {sign : Char} {word : List Char} :
    sign = '+' ∨ sign = '-' → word.map Char.toLower = "nan".toList → SpellsNan (sign :: word)

variable {negative : Bool} {num den digits : Nat} {e : Int} {cs : List Char}

theorem Binary64.order?_self (x : Binary64) :
    x.order? x = if x = .nan then none else some .eq := by
  cases x <;> simp [order?]

theorem Binary64.ofRatio_ne_nan : Binary64.ofRatio negative num den ≠ .nan := by
  unfold Binary64.ofRatio
  grind

theorem Binary64.ofDecimal_ne_nan : Binary64.ofDecimal negative digits e ≠ .nan := by
  unfold Binary64.ofDecimal
  grind [Binary64.ofRatio_ne_nan]

theorem decimal?_ne_nan : decimal? negative cs ≠ some .nan := by
  intro h
  unfold decimal? at h
  grind [Option.map_eq_some_iff, Binary64.ofDecimal_ne_nan]

/-- The word after a sign reads as what is not a number only if it is the word for that. -/
theorem read?_eq_nan_iff_word :
    read? cs = some .nan ↔ (takeSign cs).2.map Char.toLower = "nan".toList := by
  unfold read?
  constructor
  · intro h
    by_contra word
    have notInfinite : ∀ n, some (Binary64.infinite n) ≠ some .nan := by simp
    grind [decimal?_ne_nan]
  · intro word
    simp only [word]
    rfl

theorem takeSign_cases (cs : List Char) :
    (∃ sign, (sign = '+' ∨ sign = '-') ∧ cs = sign :: (takeSign cs).2) ∨ (takeSign cs).2 = cs := by
  unfold takeSign
  split
  · exact .inl ⟨'-', .inr rfl, rfl⟩
  · exact .inl ⟨'+', .inl rfl, rfl⟩
  · exact .inr rfl

theorem read?_eq_nan_iff : read? cs = some .nan ↔ SpellsNan cs := by
  rw [read?_eq_nan_iff_word]
  constructor
  · intro word
    rcases takeSign_cases cs with ⟨sign, isSign, eq⟩ | eq
    · rw [eq]
      exact .signed isSign word
    · rw [eq] at word
      exact .bare word
  · intro spelled
    cases spelled with
    | bare word =>
      rcases takeSign_cases cs with ⟨sign, isSign, eq⟩ | eq
      · -- no sign is the first letter of the word
        rw [eq] at word
        rcases isSign with rfl | rfl <;> simp at word
      · rw [eq]
        exact word
    | signed isSign word =>
      rcases isSign with rfl | rfl <;> exact word

end Number

namespace Expression

open Number

variable {op : Comparison} {a : Annotation} {tokens : List Token} {name v : String}

/-- A text compares with itself as what is equal, unless it reads as what is not a number. -/
theorem test_self_text : op.test (.text v) (.text v)
    = if read? (Unicode.trim v.toList) = some .nan then op == .notEqual else op.holds .eq := by
  unfold Comparison.test
  simp only [Value.isNull, Bool.or_self, Bool.false_eq_true, if_false, Value.toNumber?,
    Value.toText]
  cases read? (Unicode.trim v.toList) with
  | none => simp
  | some x =>
    simp only [x.order?_self, Option.some.injEq]
    by_cases isNan : x = .nan
    · simp [isNan]
    · simp [isNan]

/-- The literal of a value, or an attribute that has it. -/
inductive Denotes (a : Annotation) (v : String) : Term → Prop where
  | literal : Denotes a v (.constant (.text v))
  | held {name : String} : a.attributes.get? name = some v → Denotes a v (.attr name)

theorem eval_of_denotes {term : Term} (denotes : Denotes a v term) :
    term.eval tokens a = .ok (.text v) := by
  cases denotes with
  | literal => rfl
  | held h => simp [Term.eval, h]

theorem eval_compare_denotes {left right : Term} (isLeft : Denotes a v left)
    (isRight : Denotes a v right) :
    (Term.compare op left right).eval tokens a = .ok (.bool (op.test (.text v) (.text v))) := by
  simp only [Term.eval, eval_of_denotes isLeft, eval_of_denotes isRight]
  rfl

/-- Where an attribute meets the constraint that asks for its value, the tests that compare it with
the literal of the value and with itself say that they are equal, unless the value spells what is
not a number: they say then that they are not. -/
theorem accepts_and_compares (nonempty : v ≠ "") (plain : ¬ Pattern.Reserved v.toList)
    (held : a.attributes.get? name = some v) :
    (⟨name, Pattern.valueTest v.toList⟩ : Constraint).accepts (a.attributes.get? name) = true
    ∧ ∀ operand ∈ [Term.constant (.text v), Term.attr name],
      (¬ SpellsNan (Unicode.trim v.toList) →
        (Term.compare .equal (.attr name) operand).eval tokens a = .ok (.bool true)
        ∧ (Term.compare .notEqual (.attr name) operand).eval tokens a = .ok (.bool false))
      ∧ (SpellsNan (Unicode.trim v.toList) →
        (Term.compare .equal (.attr name) operand).eval tokens a = .ok (.bool false)
        ∧ (Term.compare .notEqual (.attr name) operand).eval tokens a = .ok (.bool true)) := by
  constructor
  · have asks : Pattern.valueTest v.toList = .oneOf [v] := by
      simpa using Pattern.valueTest_plain (by simpa using nonempty) plain
    simp [Constraint.accepts, held, asks]
  · intro operand isOperand
    have denotes : Denotes a v operand := by
      rcases List.mem_pair.1 isOperand with rfl | rfl
      · exact .literal
      · exact .held held
    simp only [eval_compare_denotes (.held held) denotes, test_self_text]
    constructor
    · intro notNan
      rw [← read?_eq_nan_iff] at notNan
      simp [notNan, Comparison.holds]
    · intro isNan
      rw [← read?_eq_nan_iff] at isNan
      simp [isNan]

/-- An annotation of one token with an attribute. -/
def attributed (v : String) : Annotation := .set (.ofSpan "t" 0 1) "x" v

/-- The attribute has the value `1e400`, which is too large for a number and reads as infinity. -/
theorem accepts_and_compares_infinite :
    (⟨"x", Pattern.valueTest "1e400".toList⟩ : Constraint).accepts (some "1e400") = true
    ∧ (Term.compare .equal (.attr "x") (.constant (.text "1e400"))).eval []
      (attributed "1e400") = .ok (.bool true) := by
  have held : (attributed "1e400").attributes.get? "x" = some "1e400" := by decide
  have notNan : ¬ SpellsNan (Unicode.trim "1e400".toList) := by
    rw [← read?_eq_nan_iff]
    decide
  obtain ⟨accepts, compares⟩ := accepts_and_compares (by decide) (by simp [Pattern.Reserved]) held
  exact ⟨accepts, ((compares _ (by simp)).1 notNan).1⟩

/-- Not every attribute that meets the constraint for its value is equal to the value in a test. -/
theorem not_always_equal : ¬ ∀ (v name : String) (a : Annotation) (tokens : List Token), v ≠ "" →
    ¬ Pattern.Reserved v.toList → a.attributes.get? name = some v →
    ∀ operand ∈ [Term.constant (.text v), Term.attr name],
      (Term.compare .equal (.attr name) operand).eval tokens a = .ok (.bool true)
      ∧ (Term.compare .notEqual (.attr name) operand).eval tokens a = .ok (.bool false) := by
  intro always
  have equal := (always "nan" "x" (attributed "nan") [] (by decide) (by simp [Pattern.Reserved])
    (by decide) _ List.mem_cons_self).1
  revert equal
  decide

end Expression

end SpanSearch
