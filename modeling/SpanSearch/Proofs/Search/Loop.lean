import Mathlib.Logic.Function.Iterate
import SpanSearch.Proofs.Search.Backtracking

/-! # The loop of the search

The search can be run on two arrays, one with the pending states and one with the matches. Each turn
takes the last state and pushes its successors in their order. These are then turned round in their
place, so that the first of them is the next to be taken.
-/

namespace SpanSearch.Search

/-- The items of an array, those from a place on turned round. -/
def reverseFrom (mark : Nat) (items : Array α) : Array α :=
  items.extract 0 mark ++ (items.extract mark items.size).reverse

/-- What the loop works on. -/
structure Loop where
  /-- The states that are still to be visited, the next last. -/
  pending : Array State
  /-- The matches that have been found, the first first. -/
  found : Array Match

namespace Loop

/-- The loop before its first turn. -/
def initial (elements : List Element) (start : Nat) : Loop := ⟨#[.initial elements start], #[]⟩

/-- One turn of the loop. Nothing happens if no state is left. -/
def turn (scene : Scene) (start : Nat) (l : Loop) : Loop :=
  match l.pending.back? with
  | none => l
  | some s =>
    let below := l.pending.pop
    let pushed := (successors scene s).foldl Array.push below
    let found :=
      match s.match? start with
      | some m => l.found.push m
      | none => l.found
    ⟨reverseFrom below.size pushed, found⟩

/-- The loop with the pending states of a list, the first of which is the next, and with the matches
of a list. -/
def ofStack (stack : List State) (found : List Match) : Loop :=
  ⟨stack.reverse.toArray, found.toArray⟩

theorem reverseFrom_foldl_push (below : Array α) (pushed : List α) :
    reverseFrom below.size (pushed.foldl Array.push below)
      = below ++ pushed.reverse.toArray := by
  rw [List.foldl_push_eq_append']
  simp [reverseFrom]

/-- A turn puts the successors of the first state in its place. -/
theorem turn_ofStack (scene : Scene) (start : Nat) (s : State) (rest : List State)
    (found : List Match) :
    turn scene start (ofStack (s :: rest) found)
      = ofStack (successors scene s ++ rest) (found ++ (s.match? start).toList) := by
  have back : (s :: rest).reverse.toArray.back? = some s := by simp
  have below : (s :: rest).reverse.toArray.pop = rest.reverse.toArray := by simp
  unfold turn ofStack
  simp only [back, below, reverseFrom_foldl_push]
  cases s.match? start <;> simp

/-- The loop comes to an end, and has then found what the states lead to. -/
theorem exists_iterate_turn (scene : Scene) (start : Nat) (stack : List State)
    (found : List Match) :
    ∃ turns, (turn scene start)^[turns] (ofStack stack found)
      = ⟨#[], (found ++ stack.flatMap (State.matches scene start)).toArray⟩ := by
  induction stack, found using
    explore.induct scene fun s found => found ++ (s.match? start).toList with
  | case1 found => exact ⟨0, by simp [ofStack]⟩
  | case2 found s rest ih =>
    obtain ⟨turns, ended⟩ := ih
    refine ⟨turns + 1, ?_⟩
    rw [Function.iterate_succ_apply, turn_ofStack, ended, List.flatMap_cons, State.matches_eq,
      List.flatMap_append]
    simp only [List.append_assoc]

/-- The loop comes to an end for every pattern. It has then found the matches in their order. -/
theorem exists_iterate_turn_initial (scene : Scene) (elements : List Element) (start : Nat) :
    ∃ turns, (turn scene start)^[turns] (initial elements start)
      = ⟨#[], (matchesAt scene elements start).toArray⟩ := by
  obtain ⟨turns, ended⟩ := exists_iterate_turn scene start [.initial elements start] []
  rw [List.nil_append, List.flatMap_singleton] at ended
  exact ⟨turns, ended⟩

/-- What is pending after a turn was so before it, or is a successor of a state that was. -/
theorem mem_pending_turn {scene : Scene} {start : Nat} {l : Loop} {s : State}
    (mem : s ∈ (turn scene start l).pending) :
    s ∈ l.pending ∨ ∃ t ∈ l.pending, s ∈ successors scene t := by
  unfold turn at mem
  split at mem
  · exact .inl mem
  · next t back =>
    simp only [reverseFrom_foldl_push, Array.mem_append, List.mem_toArray, List.mem_reverse] at mem
    rcases mem with left | new
    · rw [← Array.mem_toList_iff, Array.toList_pop] at left
      exact .inl (Array.mem_toList_iff.1 (List.dropLast_subset _ left))
    · exact .inr ⟨t, Array.mem_of_back? back, new⟩

/-- What holds of the first state, and of the successors of all states of which it holds, holds of
what is pending after any number of turns. -/
theorem forall_pending_iterate {scene : Scene} {start : Nat} {holds : State → Prop} {l : Loop}
    (first : ∀ s ∈ l.pending, holds s)
    (next : ∀ s, holds s → ∀ t ∈ successors scene s, holds t) (turns : Nat) :
    ∀ s ∈ ((turn scene start)^[turns] l).pending, holds s := by
  induction turns with
  | zero => exact first
  | succ turns ih =>
    intro s mem
    rw [Function.iterate_succ_apply'] at mem
    cases mem_pending_turn mem with
    | inl before => exact ih s before
    | inr new =>
      obtain ⟨t, before, new⟩ := new
      exact next t (ih t before) s new

end Loop

end SpanSearch.Search
