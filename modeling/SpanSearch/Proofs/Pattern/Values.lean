import SpanSearch.Proofs.Pattern.Words

/-! # How the values of attributes are printed

A value between quotes may ask for any value, for one of several or for itself. What is printed for
it asks for the same, unless it asks for a value by itself that would be taken for something else.
-/

namespace SpanSearch.Pattern

open Unicode

/-- Whether a value by itself is taken for any value or for one of several. -/
def Reserved (value : List Char) : Prop :=
  value = ['*'] ∨ value.head? = some '(' ∧ value.getLast? = some ')' ∧ 2 < value.length

section

variable {value value' inner part cs : List Char} {values : List String} {w : String}

theorem exists_inner (first : value.head? = some '(') (last : value.getLast? = some ')')
    (long : 2 < value.length) : ∃ inner, inner ≠ [] ∧ value = '(' :: (inner ++ [')']) := by
  obtain ⟨rest, rfl⟩ := List.head?_eq_some_iff.1 first
  have nonempty : rest ≠ [] := by
    rintro rfl
    simp at long
  rw [getLast?_of_cons nonempty] at last
  obtain ⟨inner, rfl⟩ := List.getLast?_eq_some_iff.1 last
  refine ⟨inner, ?_, rfl⟩
  rintro rfl
  simp at long

theorem reserved_parentheses (nonempty : inner ≠ []) : Reserved ('(' :: (inner ++ [')'])) := by
  have := List.length_pos_iff.2 nonempty
  refine .inr ⟨rfl, ?_, ?_⟩
  · rw [getLast?_of_cons (by simp), List.getLast?_concat]
  · simp only [List.length_cons, List.length_append, List.length_nil]
    omega

/-- A value asks for any value, for one of several or for itself. -/
theorem value_cases (value : List Char) :
    (value = [] ∨ value = ['*']) ∨ (∃ inner, inner ≠ [] ∧ value = '(' :: (inner ++ [')']))
      ∨ (value ≠ [] ∧ ¬ Reserved value) := by
  by_cases empty : value = []
  · exact .inl (.inl empty)
  by_cases reserved : Reserved value
  · rcases reserved with star | ⟨first, last, long⟩
    · exact .inl (.inr star)
    · exact .inr (.inl (exists_inner first last long))
  · exact .inr (.inr ⟨empty, reserved⟩)

theorem valueTest_plain (nonempty : value ≠ []) (h : ¬ Reserved value) :
    valueTest value = .oneOf [String.ofList value] := by
  obtain ⟨star, parentheses⟩ := not_or.1 h
  unfold valueTest
  rw [if_neg (by simp [nonempty, star]), if_neg]
  simpa only [Bool.and_eq_true, beq_iff_eq, decide_eq_true_eq, and_assoc] using parentheses

theorem valueTest_several (nonempty : inner ≠ []) :
    valueTest ('(' :: (inner ++ [')'])) = .oneOf (valueTest.alternatives [] inner) := by
  rcases reserved_parentheses nonempty with star | ⟨first, last, long⟩
  · simp at star
  · unfold valueTest
    rw [if_neg (by simp), if_pos]
    · simp
    · simp only [first, last, long, beq_self_eq_true, Bool.and_self, decide_true]

theorem alternatives_ne_nil : valueTest.alternatives part cs ≠ [] := by
  induction cs generalizing part with
  | nil => simp [valueTest.alternatives]
  | cons c cs ih =>
    unfold valueTest.alternatives
    split
    · exact List.cons_ne_nil _ _
    · exact ih

/-- The alternatives with bars between them are the text that they were taken from. -/
theorem intercalate_alternatives :
    ("|".intercalate (valueTest.alternatives part cs)).toList = part.reverse ++ cs := by
  induction cs generalizing part with
  | nil => simp [valueTest.alternatives]
  | cons c cs ih =>
    unfold valueTest.alternatives
    split
    · next isBar =>
      obtain rfl : c = '|' := by simpa using isBar
      rw [String.intercalate_cons_of_ne_nil alternatives_ne_nil]
      simp [ih]
    · simp [ih]

theorem printTest_several (several : ∀ w, values ≠ [w]) :
    (printTest (.oneOf values)).toList = '(' :: (("|".intercalate values).toList ++ [')']) := by
  rw [printTest]
  · simp
  · exact several

/-- What is printed for a condition asks for the same, unless it is a value that is taken for
something else. -/
theorem valueTest_printTest (plain : ∀ w, valueTest value = .oneOf [w] → ¬ Reserved w.toList) :
    valueTest (printTest (valueTest value)).toList = valueTest value := by
  rcases value_cases value with (rfl | rfl) | ⟨inner, nonempty, rfl⟩ | ⟨nonempty, notReserved⟩
  · rfl
  · rfl
  · rw [valueTest_several nonempty] at plain ⊢
    by_cases single : ∃ w, valueTest.alternatives [] inner = [w]
    · obtain ⟨w, eq⟩ := single
      have same : w.toList = inner := by
        rw [← String.intercalate_singleton (s := "|") (t := w), ← eq, intercalate_alternatives]
        rfl
      have notReserved := plain w (by rw [eq])
      rw [eq, printTest, valueTest_plain (same ▸ nonempty) notReserved, String.ofList_toList]
    · rw [printTest_several (not_exists.1 single), intercalate_alternatives]
      exact valueTest_several nonempty
  · rw [valueTest_plain nonempty notReserved, printTest, String.toList_ofList,
      valueTest_plain nonempty notReserved]

/-- A value that asks for one of several values is made of these, or is the only one of them. -/
theorem value_of_oneOf (h : valueTest value = .oneOf values) :
    value = '(' :: (("|".intercalate values).toList ++ [')']) ∨ values = [String.ofList value] := by
  rcases value_cases value with (rfl | rfl) | ⟨inner, nonempty, rfl⟩ | ⟨nonempty, notReserved⟩
  · cases h
  · cases h
  · rw [valueTest_several nonempty] at h
    cases h
    rw [intercalate_alternatives]
    exact .inl rfl
  · rw [valueTest_plain nonempty notReserved] at h
    cases h
    exact .inr rfl

/-- No value that is taken for something else asks for itself. -/
theorem not_reserved_of_oneOf (h : valueTest value = .oneOf [String.ofList value]) :
    ¬ Reserved value := by
  rcases value_cases value with (rfl | rfl) | ⟨inner, nonempty, rfl⟩ | ⟨-, notReserved⟩
  · cases h
  · cases h
  · rw [valueTest_several nonempty] at h
    have same := congrArg (fun values => ("|".intercalate values).toList) (ValueTest.oneOf.inj h)
    simp only [intercalate_alternatives, String.intercalate_singleton, String.toList_ofList] at same
    have lengths := congrArg List.length same
    simp only [List.reverse_nil, List.nil_append, List.length_cons, List.length_append,
      List.length_nil] at lengths
    omega
  · exact notReserved

end

/-! ## Misread values -/

section

open Quoted

variable {cs text : List Char}

theorem misread_ne (h : Misread '"' cs text) : text ≠ cs := by
  rintro rfl
  rcases h with ⟨before, after, eq, eq'⟩ | ⟨before, after, eq, eq'⟩
  · simpa using eq.symm.trans eq'
  · simpa using eq.symm.trans eq'

theorem misread_ne_parentheses (h : Misread '"' cs text) : text ≠ '(' :: (cs ++ [')']) := by
  rintro rfl
  rcases h with ⟨before, after, -, eq⟩ | ⟨before, after, rfl, eq⟩
  · have last : (before ++ ['\\', '\\']).getLast? = some ')' := by
      rw [← eq, getLast?_of_cons (by simp), List.getLast?_concat]
    simp at last
  · -- there are more quotes on the one side than on the other
    have count := congrArg (List.count '"') eq
    simp at count

/-- A text that is misread asks for something else. -/
theorem valueTest_misread {test : ValueTest} (h : Misread '"' (printTest test).toList text) :
    valueTest text ≠ test := by
  intro same
  cases test with
  | present =>
    have star : (printTest .present).toList = ['*'] := rfl
    rw [star] at h
    rcases h with ⟨before, after, eq, -⟩ | ⟨before, after, eq, -⟩
    · have mem : '\\' ∈ ['*'] := by rw [eq]; simp
      simp at mem
    · have mem : '\\' ∈ ['*'] := by rw [eq]; simp
      simp at mem
  | oneOf values =>
    rcases value_of_oneOf same with eq | rfl
    · by_cases single : ∃ w, values = [w]
      · obtain ⟨w, rfl⟩ := single
        rw [String.intercalate_singleton] at eq
        exact misread_ne_parentheses h eq
      · rw [← printTest_several (not_exists.1 single)] at eq
        exact misread_ne h eq
    · refine misread_ne h ?_
      rw [printTest, String.toList_ofList]

end

end SpanSearch.Pattern
