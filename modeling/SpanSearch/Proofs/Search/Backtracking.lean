import Mathlib.Data.List.Basic
import SpanSearch.Proofs.Search.Derivation
import SpanSearch.Search.Explore

/-! # The search as plain backtracking

The derivations of elements are listed by recursion on the elements: a block may end before it goes
on, candidates and branches are taken in their order. The search with its pending states and goals
finds just the trees of these derivations, in the same order.
-/

namespace SpanSearch.Search

/-- Whether an occurrence of a group from `start` to `stop` may follow `count` others: it is not
empty, or occurrences are lacking. -/
def Follows (bounds : Bounds) (count start stop : Nat) : Prop :=
  ¬(stop = start ∧ bounds.min ≤ count)

instance (bounds : Bounds) (count start stop : Nat) : Decidable (Follows bounds count start stop) :=
  inferInstanceAs (Decidable (¬_))

/-- The blocks of an element from an offset on, each with its end, where `count` occurrences stand
before them and `occurrences` lists those that may follow so many at an offset. -/
def blocksFrom (occurrences : Nat → Nat → List Derivation) (bounds : Bounds) (count start : Nat) :
    List (List Derivation × Nat) :=
  (if bounds.min ≤ count then [([], start)] else [])
    ++ if count < bounds.max then
      (occurrences count start).flatMap fun d =>
        (blocksFrom occurrences bounds (count + 1) d.stop).map fun (block, stop) =>
          (d :: block, stop)
    else []
termination_by bounds.max - count

mutual

/-- The occurrences of an element at an offset that may follow `count` others. -/
def occurrencesAt (scene : Scene) : Element → Nat → Nat → List Derivation
  | .atom a s => fun _ start =>
    (scene.ends start a).map fun (stop, matched) => .leaf (.atom a s) start stop matched
  | .sequence children s => fun count start =>
    ((rowsAt scene children start).filter (Follows s.bounds count start ·.2)).map
      fun (blocks, stop) => .all (.sequence children s) start stop blocks
  | .choice branches s => fun count start =>
    ((branchesAt scene branches start).filter (Follows s.bounds count start ·.2.2)).map
      fun (branch, block, stop) => .one (.choice branches s) start stop branch block

/-- The blocks that make up elements in a row from an offset on, with their end. -/
def rowsAt (scene : Scene) : List Element → Nat → List (List (List Derivation) × Nat)
  | [] => fun start => [([], start)]
  | e :: es => fun start =>
    (blocksFrom (occurrencesAt scene e) e.bounds 0 start).flatMap fun (block, mid) =>
      (rowsAt scene es mid).map fun (rest, stop) => (block :: rest, stop)

/-- The blocks of each of several branches from an offset on, with the number of the branch and the
end. -/
def branchesAt (scene : Scene) : List Element → Nat → List (Nat × List Derivation × Nat)
  | [] => fun _ => []
  | b :: bs => fun start =>
    ((blocksFrom (occurrencesAt scene b) b.bounds 0 start).map fun (block, stop) => (0, block, stop))
      ++ (branchesAt scene bs start).map fun (branch, block, stop) => (branch + 1, block, stop)

end

mutual

/-- The attributes after those that an occurrence sets, what it consists of before itself. -/
def Scene.settle (scene : Scene) (attributes : Attributes) : Occurrence → Attributes
  | .leaf e start stop matched =>
    Setter.applyAll e.setters scene.tokens scene.separator
      (Occurrence.leaf e start stop matched).span attributes
  | .group e start stop children =>
    Setter.applyAll e.setters scene.tokens scene.separator
      (Occurrence.group e start stop children).span (scene.settleAll attributes children)

/-- The attributes after those that several occurrences in a row set. -/
def Scene.settleAll (scene : Scene) (attributes : Attributes) : List Occurrence → Attributes
  | [] => attributes
  | o :: rest => scene.settleAll (scene.settle attributes o) rest

end

/-- The match that blocks from `start` to `stop` make up. -/
def Match.ofBlocks (scene : Scene) (start : Nat) (blocks : List (List Derivation)) (stop : Nat) :
    Match :=
  ⟨start, stop, Derivation.treesOfBlocks blocks,
    scene.settleAll .empty (Derivation.treesOfBlocks blocks)⟩

/-! ## What a state leads to -/

/-- The matches that a state of the search leads to, in the order in which they are found. -/
def State.matches (scene : Scene) (start : Nat) (s : State) : List Match :=
  (explore scene (fun s found => (s.match? start).toList ++ found) [s] []).reverse

theorem explore_append (scene : Scene) (visit : State → α → α) (first second : List State)
    (gathered : α) :
    explore scene visit (first ++ second) gathered
      = explore scene visit second (explore scene visit first gathered) := by
  fun_induction explore scene visit first gathered with
  | case1 => rfl
  | case2 gathered s rest ih =>
    rw [List.cons_append, explore, ← List.append_assoc]
    exact ih

theorem explore_gather (scene : Scene) (found : State → List α) (pending : List State)
    (gathered : List α) :
    explore scene (fun s more => found s ++ more) pending gathered
      = explore scene (fun s more => found s ++ more) pending [] ++ gathered := by
  -- the induction is on the pending states alone, as each visit changes what is gathered
  suffices ∀ gathered, explore scene (fun s more => found s ++ more) pending gathered
      = explore scene (fun s more => found s ++ more) pending [] ++ gathered from this gathered
  induction pending, gathered using explore.induct scene (fun s more => found s ++ more) with
  | case1 => simp [explore]
  | case2 _ s rest ih =>
    intro gathered
    rw [explore, explore, ih (found s ++ gathered), ih (found s ++ [])]
    simp only [List.append_nil, List.append_assoc]

theorem explore_reverse (scene : Scene) (start : Nat) (pending : List State) :
    (explore scene (fun s found => (s.match? start).toList ++ found) pending []).reverse
      = pending.flatMap (State.matches scene start) := by
  induction pending with
  | nil => simp [explore]
  | cons s rest ih =>
    rw [← List.singleton_append, explore_append, explore_gather, List.reverse_append, ih,
      List.singleton_append, List.flatMap_cons, State.matches]

/-- A state leads to the match that it stands for, and to those that its successors lead to. -/
theorem State.matches_eq (scene : Scene) (start : Nat) (s : State) :
    s.matches scene start
      = (s.match? start).toList ++ (successors scene s).flatMap (State.matches scene start) := by
  rw [← explore_reverse, State.matches, explore, List.append_nil, List.append_nil, explore_gather,
    List.reverse_append]
  cases s.match? start <;> rfl

theorem State.matches_goals (scene : Scene) (start : Nat) {s : State} (h : s.goals ≠ []) :
    s.matches scene start = (successors scene s).flatMap (State.matches scene start) := by
  rw [State.matches_eq, State.match?, if_neg (by simp [h])]
  rfl

/-- The state after occurrences in a row up to `stop`, in which the given goals remain. -/
def State.pass (scene : Scene) (s : State) (goals : List Goal) (trees : List Occurrence)
    (stop : Nat) : State :=
  ⟨goals, stop, trees.reverse ++ s.nodes, scene.settleAll s.attributes trees⟩

theorem Scene.settleAll_append (scene : Scene) (attributes : Attributes)
    (first second : List Occurrence) :
    scene.settleAll attributes (first ++ second)
      = scene.settleAll (scene.settleAll attributes first) second := by
  induction first generalizing attributes with
  | nil => rfl
  | cons o rest ih => exact ih _

theorem State.pass_pass (scene : Scene) (s : State) (goals goals' : List Goal)
    (first second : List Occurrence) (mid stop : Nat) :
    (s.pass scene goals first mid).pass scene goals' second stop
      = s.pass scene goals' (first ++ second) stop := by
  simp only [State.pass, List.reverse_append, List.append_assoc, Scene.settleAll_append]

theorem successors_ended (scene : Scene) (s : State) (goals : List Goal) (count : Nat) :
    successors scene { s with goals := .row [] count :: goals } = [{ s with goals := goals }] := rfl

theorem successors_row (scene : Scene) (s : State) (goals : List Goal) (e : Element)
    (es : List Element) (count : Nat) :
    successors scene { s with goals := .row (e :: es) count :: goals }
      = (if e.bounds.min ≤ count then [{ s with goals := .row es 0 :: goals }] else [])
        ++ if count < e.bounds.max then
          occur scene e count { s with goals := .row (e :: es) (count + 1) :: goals }
        else [] := rfl

theorem successors_close (scene : Scene) (s : State) (goals : List Goal) (e : Element)
    (count start : Nat) (before : List Occurrence) :
    successors scene { s with goals := .close e count start before :: goals }
      = if s.offset = start ∧ e.bounds.min ≤ count then []
        else [{ s with goals := goals, nodes := before }.push scene
          (.group e start s.offset s.nodes.reverse)] := rfl

theorem State.matches_ended (scene : Scene) (first : Nat) (s : State) (goals : List Goal)
    (count : Nat) :
    ({ s with goals := .row [] count :: goals } : State).matches scene first
      = ({ s with goals := goals } : State).matches scene first := by
  rw [State.matches_goals _ _ (by simp), successors_ended, List.flatMap_singleton]

/-- The end of a group refuses an empty occurrence if none is lacking, and else adds the group. -/
theorem State.matches_close (scene : Scene) (first : Nat) (s : State) (goals : List Goal)
    (e : Element) (count start : Nat) (before : List Occurrence) :
    ({ s with goals := .close e count start before :: goals } : State).matches scene first
      = if s.offset = start ∧ e.bounds.min ≤ count then []
        else State.matches scene first
          ({ s with goals := goals, nodes := before }.push scene
            (.group e start s.offset s.nodes.reverse)) := by
  rw [State.matches_goals _ _ (by simp), successors_close]
  split
  · rfl
  · rw [List.flatMap_singleton]

/-! ## What goals lead to -/

theorem flatMap_filter {p : α → Bool} {f : α → List β} (l : List α) :
    (l.filter p).flatMap f = l.flatMap fun a => if p a = true then f a else [] := by
  induction l with
  | nil => rfl
  | cons a l ih =>
    rw [List.filter_cons, List.flatMap_cons, ← ih]
    split <;> rfl

/-- The end of a group after its contents leads to the same as the group by itself, if that may
follow the occurrences before it. -/
theorem State.matches_group (scene : Scene) (first : Nat) (s : State) (goals : List Goal)
    (e : Element) (count : Nat) (trees : List Occurrence) (stop : Nat) :
    (({ s with nodes := [] } : State).pass scene (.close e count s.offset s.nodes :: goals) trees
        stop).matches scene first
      = if Follows e.bounds count s.offset stop then
          (s.pass scene goals [.group e s.offset stop trees] stop).matches scene first
        else [] := by
  rw [State.pass]
  change State.matches scene first { (⟨goals, stop, trees.reverse ++ [], scene.settleAll s.attributes
    trees⟩ : State) with goals := .close e count s.offset s.nodes :: goals } = _
  rw [State.matches_close]
  by_cases follows : Follows e.bounds count s.offset stop
  · rw [if_neg follows, if_pos follows]
    simp only [State.push, State.pass, Occurrence.stop, Occurrence.element, Scene.settleAll,
      Scene.settle, List.append_nil, List.reverse_reverse, List.reverse_singleton,
      List.singleton_append]
  · rw [if_pos (not_not.1 follows), if_neg follows]

/-- What an element and others after it lead to, if it is known what one occurrence leads to. -/
theorem matches_block {scene : Scene} {first : Nat} {e : Element}
    (once : ∀ (s : State) (goals : List Goal) (count : Nat),
      (occur scene e count { s with goals := goals }).flatMap (State.matches scene first)
        = (occurrencesAt scene e count s.offset).flatMap fun d =>
          (s.pass scene goals [d.tree] d.stop).matches scene first)
    (es : List Element) (goals : List Goal) (s : State) (count : Nat) :
    ({ s with goals := .row (e :: es) count :: goals } : State).matches scene first
      = (blocksFrom (occurrencesAt scene e) e.bounds count s.offset).flatMap
        fun (block, mid) =>
          (s.pass scene (.row es 0 :: goals) (Derivation.trees block) mid).matches scene first := by
  generalize at_start : s.offset = start
  induction count, start using
    blocksFrom.induct e.bounds generalizing s with
  | case1 count start ih =>
    subst at_start
    rw [State.matches_goals _ _ (by simp), successors_row, blocksFrom, List.flatMap_append,
      List.flatMap_append]
    congr 1
    · split
      · rw [List.flatMap_singleton, List.flatMap_singleton]
        rfl
      · rfl
    · split
      · next more =>
        rw [once, List.flatMap_assoc]
        refine List.flatMap_congr fun d _ => ?_
        rw [List.flatMap_map]
        have later := ih more d (s.pass scene goals [d.tree] d.stop) rfl
        exact later.trans (List.flatMap_congr fun ⟨block, mid⟩ _ =>
          congrArg (State.matches scene first) (State.pass_pass ..))
      · rfl

mutual

/-- What an element leads to when it occurs once more. -/
theorem matches_occur (scene : Scene) (first : Nat) (s : State) (goals : List Goal) (count : Nat) :
    (e : Element) →
    (occur scene e count { s with goals := goals }).flatMap (State.matches scene first)
      = (occurrencesAt scene e count s.offset).flatMap fun d =>
        (s.pass scene goals [d.tree] d.stop).matches scene first
  | .atom a suffix => by
    simp only [occur, Scene.leaves, occurrencesAt, List.map_map, List.flatMap_map]
    rfl
  | .sequence children suffix => by
    rw [occur, List.flatMap_singleton, State.enter]
    have contents := matches_row scene first { s with nodes := [] }
      (.close (.sequence children suffix) count s.offset s.nodes :: goals) children
    refine contents.trans ?_
    simp only [occurrencesAt, List.flatMap_map, flatMap_filter, decide_eq_true_eq]
    exact List.flatMap_congr fun ⟨blocks, stop⟩ _ => s.matches_group ..
  | .choice branches suffix => by
    rw [occur, List.flatMap_map]
    have contents := matches_branches scene first { s with nodes := [] }
      (.close (.choice branches suffix) count s.offset s.nodes :: goals) branches
    refine contents.trans ?_
    simp only [occurrencesAt, List.flatMap_map, flatMap_filter, decide_eq_true_eq]
    exact List.flatMap_congr fun ⟨branch, block, stop⟩ _ => s.matches_group ..

/-- What elements in a row lead to. -/
theorem matches_row (scene : Scene) (first : Nat) (s : State) (goals : List Goal) :
    (es : List Element) →
    ({ s with goals := .row es 0 :: goals } : State).matches scene first
      = (rowsAt scene es s.offset).flatMap fun (blocks, stop) =>
        (s.pass scene goals (Derivation.treesOfBlocks blocks) stop).matches scene first
  | [] => by
    rw [State.matches_ended, rowsAt, List.flatMap_singleton]
    rfl
  | e :: es => by
    rw [matches_block (fun s goals count => matches_occur scene first s goals count e), rowsAt,
      List.flatMap_assoc]
    refine List.flatMap_congr fun ⟨block, mid⟩ _ => ?_
    rw [List.flatMap_map]
    have later := matches_row scene first
      (s.pass scene goals (Derivation.trees block) mid) goals es
    exact later.trans (List.flatMap_congr fun ⟨blocks, stop⟩ _ =>
      congrArg (State.matches scene first) (State.pass_pass ..))

/-- What the branches of a choice lead to. -/
theorem matches_branches (scene : Scene) (first : Nat) (s : State) (goals : List Goal) :
    (bs : List Element) →
    bs.flatMap (fun b => ({ s with goals := .row [b] 0 :: goals } : State).matches scene first)
      = (branchesAt scene bs s.offset).flatMap fun (_, block, stop) =>
        (s.pass scene goals (Derivation.trees block) stop).matches scene first
  | [] => rfl
  | b :: bs => by
    rw [List.flatMap_cons, branchesAt, List.flatMap_append, List.flatMap_map, List.flatMap_map,
      matches_branches scene first s goals bs,
      matches_block (fun s goals count => matches_occur scene first s goals count b)]
    congr 1
    refine List.flatMap_congr fun ⟨block, mid⟩ _ => ?_
    exact State.matches_ended scene first
      (s.pass scene goals (Derivation.trees block) mid) goals 0

end

/-- A state without goals leads to one match, if that has a token. -/
theorem State.matches_done (scene : Scene) (first : Nat) (s : State) (h : s.goals = []) :
    s.matches scene first
      = if s.offset ≠ first then [⟨first, s.offset, s.nodes.reverse, s.attributes⟩] else [] := by
  rw [State.matches_eq, successors, h, State.match?, h]
  by_cases still : s.offset = first <;> simp [still]

/-- The search finds the matches of the derivations that have a token, in the order in which plain
backtracking lists these. -/
theorem matchesAt_eq (scene : Scene) (elements : List Element) (start : Nat) :
    matchesAt scene elements start
      = ((rowsAt scene elements start).filter (·.2 ≠ start)).map fun (blocks, stop) =>
        Match.ofBlocks scene start blocks stop := by
  have row := matches_row scene start ⟨[], start, [], .empty⟩ [] elements
  refine Eq.trans row ?_
  generalize rowsAt scene elements start = rows
  induction rows with
  | nil => rfl
  | cons head rest ih =>
    obtain ⟨blocks, stop⟩ := head
    rw [List.flatMap_cons, ih]
    dsimp only
    rw [State.matches_done _ _ _ rfl]
    by_cases still : stop = start <;> simp [State.pass, Match.ofBlocks, still]

end SpanSearch.Search
