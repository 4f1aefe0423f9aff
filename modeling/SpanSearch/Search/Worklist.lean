/-! # Work lists

A work list is worked off from its front. Each task is done by putting others in its place, which
are smaller in a well-founded order. So the list is empty at last.
-/

namespace SpanSearch.Worklist

/-- Whether the one list comes from the other by putting smaller tasks in the place of the first. -/
def Smaller (smaller : α → α → Prop) (later earlier : List α) : Prop :=
  ∃ task rest new, earlier = task :: rest ∧ later = new ++ rest ∧ ∀ t ∈ new, smaller t task

variable {smaller : α → α → Prop}

theorem acc_nil : Acc (Smaller smaller) [] :=
  ⟨_, fun _ ⟨_, _, _, h, _⟩ => nomatch h⟩

theorem acc_cons {task : α} (h : Acc smaller task) :
    ∀ {rest : List α}, Acc (Smaller smaller) rest → Acc (Smaller smaller) (task :: rest) := by
  induction h with
  | intro task _ ih =>
    intro rest accRest
    constructor
    intro later step
    obtain ⟨task', rest', new, eq, rfl, below⟩ := step
    obtain ⟨rfl, rfl⟩ := List.cons.inj eq
    clear eq
    induction new with
    | nil => exact accRest
    | cons first new ihNew =>
      exact ih first (below first (by simp)) (ihNew fun t ht => below t (by simp [ht]))

/-- Working off a list comes to an end. -/
theorem wellFounded_smaller (h : WellFounded smaller) : WellFounded (Smaller smaller) := by
  refine ⟨fun list => ?_⟩
  induction list with
  | nil => exact acc_nil
  | cons task rest ih => exact acc_cons (h.apply task) ih

end SpanSearch.Worklist
