import Mathlib.Data.List.Basic
import SpanSearch.Annotation

/-! # The document order

Annotations in document order stand in it pairwise. Sorting is stable: of annotations that the order
does not tell apart, the first stays the first.
-/

namespace SpanSearch.Annotation

instance : Std.TransCmp order :=
  inferInstanceAs (Std.TransCmp
    (compareLex (compareLex (compareOn start) fun a b => compareOn size b a) (compareOn type)))

/-- Whether an annotation does not come after another one in document order. -/
def precedes (a b : Annotation) : Bool := a.order b != .gt

theorem precedes_eq (a b : Annotation) : a.precedes b = (a.order b).isLE := by
  cases order : a.order b <;> simp [precedes, order, Ordering.isLE]

theorem precedes_trans (a b c : Annotation) (first : a.precedes b = true)
    (second : b.precedes c = true) : a.precedes c = true := by
  rw [precedes_eq] at first second ⊢
  exact Std.TransCmp.isLE_trans first second

theorem precedes_total (a b : Annotation) : (a.precedes b || b.precedes a) = true := by
  have swap : b.order a = (a.order b).swap := Std.OrientedCmp.eq_swap
  rw [precedes, precedes, swap]
  cases a.order b <;> rfl

theorem precedes_of_same {a b : Annotation} (start : a.start = b.start) (size : a.size = b.size)
    (type : a.type = b.type) : a.precedes b = true := by
  have same : a.order b = .eq := by
    simp only [order, start, size, type, Std.ReflCmp.compare_self, Ordering.eq_then]
  rw [precedes, same]
  rfl

/-- What is sorted is in document order. -/
theorem pairwise_sort (annotations : List Annotation) :
    (sort annotations).Pairwise fun a b => a.precedes b = true :=
  List.pairwise_mergeSort precedes_trans precedes_total annotations

@[simp] theorem mem_sort {a : Annotation} {annotations : List Annotation} :
    a ∈ sort annotations ↔ a ∈ annotations :=
  List.mem_mergeSort

/-- Among annotations that the order does not tell apart, sorting finds the same one first. -/
theorem find?_sort (annotations : List Annotation) {p : Annotation → Bool}
    (alike : ∀ a ∈ annotations, ∀ b ∈ annotations, p a = true → p b = true →
      a.precedes b = true) :
    (sort annotations).find? p = annotations.find? p := by
  have inOrder : (annotations.filter p).Pairwise fun a b => a.precedes b = true :=
    List.pairwise_iff_forall_sublist.2 fun {a b} sub => by
      obtain ⟨mem_a, p_a⟩ := List.mem_filter.1 (sub.subset (a := a) (by simp))
      obtain ⟨mem_b, p_b⟩ := List.mem_filter.1 (sub.subset (a := b) (by simp))
      exact alike a mem_a b mem_b p_a p_b
  have kept : List.Sublist (annotations.filter p) ((sort annotations).filter p) := by
    have sub : List.Sublist (annotations.filter p) (sort annotations) :=
      List.sublist_mergeSort precedes_trans precedes_total inOrder List.filter_sublist
    simpa using sub.filter p
  have length : (annotations.filter p).length = ((sort annotations).filter p).length :=
    ((List.mergeSort_perm annotations precedes).filter p).length_eq.symm
  rw [← List.head?_filter, ← List.head?_filter, kept.eq_of_length length]

end SpanSearch.Annotation
