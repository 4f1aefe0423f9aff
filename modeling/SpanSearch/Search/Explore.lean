import SpanSearch.Search.State
import SpanSearch.Search.Worklist

/-! # Exploring the states of a search

The search visits all states that can be reached, each before its successors and these in their
order. States that are still to be visited stand in a list, so the depth of a search is not limited.

The search comes to an end whatever it is made in, since no element occurs more often than its
maximum: each state has goals that cost less than those of the state before it.
-/

namespace SpanSearch.Search

mutual

/-- A bound for the states in one occurrence of an element. -/
def occurrenceCost : Element → Nat
  | .atom .. => 0
  | .sequence children _ => rowCost children + 1
  | .choice branches _ => branchesCost branches + 1

/-- A bound for the states in a row of elements. -/
def rowCost : List Element → Nat
  | [] => 1
  | e :: es => rowCost es + e.bounds.max * (occurrenceCost e + 1) + 1

/-- A bound for the states in any of several branches. -/
def branchesCost : List Element → Nat
  | [] => 0
  | b :: bs => branchesCost bs + b.bounds.max * (occurrenceCost b + 1) + 2

end

/-- A bound for the states that follow goals. -/
def goalsCost : List Goal → Nat
  | [] => 0
  | .row [] _ :: goals => goalsCost goals + 1
  | .row (e :: es) count :: goals =>
    goalsCost goals + rowCost es + (e.bounds.max - count) * (occurrenceCost e + 1) + 1
  | .close .. :: goals => goalsCost goals + 1

theorem rowCost_nil : rowCost [] = 1 := rfl

theorem rowCost_cons (e : Element) (es : List Element) :
    rowCost (e :: es) = rowCost es + e.bounds.max * (occurrenceCost e + 1) + 1 := rfl

theorem branchesCost_cons (b : Element) (bs : List Element) :
    branchesCost (b :: bs) = branchesCost bs + b.bounds.max * (occurrenceCost b + 1) + 2 := rfl

theorem goalsCost_done (count : Nat) (goals : List Goal) :
    goalsCost (.row [] count :: goals) = goalsCost goals + 1 := rfl

theorem goalsCost_next (e : Element) (es : List Element) (count : Nat) (goals : List Goal) :
    goalsCost (.row (e :: es) count :: goals)
      = goalsCost goals + rowCost es + (e.bounds.max - count) * (occurrenceCost e + 1) + 1 := rfl

theorem goalsCost_close (e : Element) (count start : Nat) (before : List Occurrence)
    (goals : List Goal) :
    goalsCost (.close e count start before :: goals) = goalsCost goals + 1 := rfl

theorem goalsCost_row (es : List Element) (goals : List Goal) :
    goalsCost (.row es 0 :: goals) = goalsCost goals + rowCost es := by
  cases es with
  | nil => rfl
  | cons e es => simp only [goalsCost_next, rowCost_cons, Nat.sub_zero, Nat.add_assoc]

theorem rowCost_singleton_le {b : Element} {branches : List Element} (h : b ∈ branches) :
    rowCost [b] ≤ branchesCost branches := by
  induction branches with
  | nil => simp at h
  | cons first rest ih =>
    simp only [rowCost_cons, rowCost_nil, branchesCost_cons] at ih ⊢
    rcases List.mem_cons.1 h with rfl | h
    · omega
    · have := ih h
      omega

/-- Whether a state is closer to its end than another one. -/
def Closer : State → State → Prop := InvImage (· < ·) fun s => goalsCost s.goals

theorem wellFounded_closer : WellFounded Closer := InvImage.wf _ Nat.lt_wfRel.wf

/-- After an occurrence of an element, less remains than before. -/
theorem cost_occurrence {count : Nat} {e : Element} (es : List Element) (goals : List Goal)
    (more : count < e.bounds.max) :
    goalsCost (.row (e :: es) (count + 1) :: goals) + occurrenceCost e
      < goalsCost (.row (e :: es) count :: goals) := by
  have left : e.bounds.max - count = (e.bounds.max - (count + 1)) + 1 := by omega
  rw [goalsCost_next, goalsCost_next, left, Nat.succ_mul (e.bounds.max - (count + 1))]
  omega

/-- After an element has been entered once more, less remains than before. -/
theorem cost_enter {count start : Nat} {e : Element} {es children : List Element}
    {before : List Occurrence} {goals : List Goal} (more : count < e.bounds.max)
    (within : rowCost children + 1 ≤ occurrenceCost e) :
    goalsCost (.row children 0 :: .close e count start before
        :: .row (e :: es) (count + 1) :: goals)
      < goalsCost (.row (e :: es) count :: goals) := by
  have := cost_occurrence es goals more
  rw [goalsCost_row, goalsCost_close]
  omega

/-- Every successor of a state is closer to its end. -/
theorem closer_of_mem_successors {scene : Scene} {s t : State} (h : t ∈ successors scene s) :
    Closer t s := by
  obtain ⟨goals, offset, nodes, attributes⟩ := s
  unfold successors at h
  dsimp only at h
  unfold Closer InvImage
  split at h
  · simp at h
  · obtain rfl := List.mem_singleton.1 h
    simp only [goalsCost_done]
    omega
  · next e es count goals =>
    rcases List.mem_append.1 h with h | h
    · split at h
      · obtain rfl := List.mem_singleton.1 h
        dsimp only
        rw [goalsCost_row, goalsCost_next]
        omega
      · simp at h
    · split at h
      · next more =>
        unfold occur at h
        split at h
        · next a suffix =>
          obtain ⟨node, _, rfl⟩ := List.mem_map.1 h
          have := cost_occurrence es goals more
          simp only [State.push]
          omega
        · obtain rfl := List.mem_singleton.1 h
          exact cost_enter more (Nat.le_refl _)
        · obtain ⟨branch, mem, rfl⟩ := List.mem_map.1 h
          exact cost_enter more (Nat.succ_le_succ (rowCost_singleton_le mem))
      · simp at h
  · next e count start before goals =>
    split at h
    · simp at h
    · obtain rfl := List.mem_singleton.1 h
      simp only [State.push, goalsCost_close]
      omega

/-- States that are still to be visited. -/
structure Pending where
  states : List State

instance : WellFoundedRelation Pending where
  rel := InvImage (Worklist.Smaller Closer) Pending.states
  wf := InvImage.wf _ (Worklist.wellFounded_smaller wellFounded_closer)

/-- Visits the states that can be reached from pending ones, and gathers something of each. -/
def explore (scene : Scene) (visit : State → α → α) (pending : List State) (gathered : α) : α :=
  match pending with
  | [] => gathered
  | s :: rest => explore scene visit (successors scene s ++ rest) (visit s gathered)
termination_by (⟨pending⟩ : Pending)
decreasing_by
  exact ⟨s, rest, successors scene s, rfl, rfl, fun _ h => closer_of_mem_successors h⟩

/-- The match that a state stands for if nothing remains to be matched. It has one token at
least. -/
def State.match? (start : Nat) (s : State) : Option Match :=
  if s.goals.isEmpty ∧ s.offset ≠ start then
    some ⟨start, s.offset, s.nodes.reverse, s.attributes⟩
  else none

/-- The matches that start at an offset, in the order in which they are found. -/
def matchesAt (scene : Scene) (elements : List Element) (start : Nat) : List Match :=
  (explore scene (fun s found => (s.match? start).toList ++ found) [.initial elements start]
    []).reverse

/-- The type of the annotations that are looked up in a state, if some are. -/
def State.wants? (s : State) : Option String :=
  match s.goals with
  | .row (.atom (.tag tag) suffix :: _) count :: _ =>
    if count < suffix.bounds.max then some tag.type else none
  | _ => none

/-- The types of the annotations that a search at several offsets looks up, each once. -/
def typesWanted (scene : Scene) (elements : List Element) (starts : List Nat) : List String :=
  let visit := fun (s : State) types =>
    match s.wants? with
    | some type => if types.contains type then types else types ++ [type]
    | none => types
  explore scene visit (starts.map (State.initial elements)) []

end SpanSearch.Search
