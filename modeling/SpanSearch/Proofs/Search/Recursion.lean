import SpanSearch.Proofs.Search.Backtracking

/-! # Matching by plain recursion

A pattern can be matched by recursion on its elements alone: an element goes on before it occurs once
more, candidates and branches are tried in their order, and each way through carries the nodes and
the attributes of its own. The search, which keeps what remains in goals and all other ways in a list,
finds the same matches in the same order.
-/

namespace SpanSearch.Search

/-- A way through a part of a pattern. -/
structure Trail where
  /-- The nodes of the innermost group that is open, in their order. -/
  nodes : List Occurrence
  /-- Where the way has arrived. -/
  stop : Nat
  /-- The attributes that were set on the way. -/
  attributes : Attributes

namespace Trail

/-- The way after one more node, whose setters apply. -/
def add (scene : Scene) (t : Trail) (node : Occurrence) : Trail :=
  ⟨t.nodes ++ [node], node.stop,
    Setter.applyAll node.element.setters scene.tokens scene.separator node.span t.attributes⟩

/-- The way on which a group has been opened. -/
def enter (t : Trail) : Trail := { t with nodes := [] }

/-- The way after a group that `inner` leads through. -/
def close (scene : Scene) (t : Trail) (e : Element) (inner : Trail) : Trail :=
  { t with attributes := inner.attributes }.add scene (.group e t.stop inner.stop inner.nodes)

end Trail

/-- The ways on through an element that has occurred `count` times: the one that leaves it, then those
on which it occurs once more. -/
def repeats (once : Nat → Trail → List Trail) (bounds : Bounds) (count : Nat) (t : Trail) :
    List Trail :=
  (if bounds.min ≤ count then [t] else [])
    ++ if count < bounds.max then (once count t).flatMap (repeats once bounds (count + 1)) else []
termination_by bounds.max - count

mutual

/-- The ways through one occurrence of an element, after `count` others. -/
def trailsOnce (scene : Scene) : Element → Nat → Trail → List Trail
  | .atom a s, _, t => (scene.leaves (.atom a s) a t.stop).map (t.add scene)
  | .sequence children s, count, t =>
    ((trailsRow scene children t.enter).filter (Follows s.bounds count t.stop ·.stop)).map
      (t.close scene (.sequence children s))
  | .choice branches s, count, t =>
    ((trailsBranches scene branches t.enter).filter (Follows s.bounds count t.stop ·.stop)).map
      (t.close scene (.choice branches s))

/-- The ways through elements in a row. -/
def trailsRow (scene : Scene) : List Element → Trail → List Trail
  | [], t => [t]
  | e :: es, t => (repeats (trailsOnce scene e) e.bounds 0 t).flatMap (trailsRow scene es)

/-- The ways through any of several branches. -/
def trailsBranches (scene : Scene) : List Element → Trail → List Trail
  | [], _ => []
  | b :: bs, t => repeats (trailsOnce scene b) b.bounds 0 t ++ trailsBranches scene bs t

end

/-- The matches that start at an offset, as recursion on the elements finds them. -/
def backtrack (scene : Scene) (elements : List Element) (start : Nat) : List Match :=
  ((trailsRow scene elements ⟨[], start, .empty⟩).filter (·.stop ≠ start)).map fun t =>
    ⟨start, t.stop, t.nodes, t.attributes⟩

/-! ## The ways follow the derivations -/

/-- The way after occurrences in a row up to `stop`. -/
def Trail.extend (scene : Scene) (t : Trail) (trees : List Occurrence) (stop : Nat) : Trail :=
  ⟨t.nodes ++ trees, stop, scene.settleAll t.attributes trees⟩

namespace Trail

variable {scene : Scene} {t : Trail}

@[simp] theorem extend_stop (trees : List Occurrence) (stop : Nat) :
    (t.extend scene trees stop).stop = stop := rfl

theorem extend_nil : t.extend scene [] t.stop = t := by
  rw [extend, List.append_nil, Scene.settleAll]

theorem extend_extend (first second : List Occurrence) (mid stop : Nat) :
    (t.extend scene first mid).extend scene second stop = t.extend scene (first ++ second) stop := by
  simp only [extend, List.append_assoc, Scene.settleAll_append]

theorem add_leaf (e : Element) (start stop : Nat) (matched : Option Annotation) :
    t.add scene (.leaf e start stop matched)
      = t.extend scene [.leaf e start stop matched] stop := rfl

theorem close_extend (e : Element) (trees : List Occurrence) (stop : Nat) :
    t.close scene e (t.enter.extend scene trees stop)
      = t.extend scene [.group e t.stop stop trees] stop := rfl

end Trail

/-- If the ways through one occurrence follow its derivations, those through many follow blocks. -/
theorem repeats_eq {scene : Scene} {e : Element}
    (once : ∀ count (t : Trail), trailsOnce scene e count t
      = (occurrencesAt scene e count t.stop).map fun d => t.extend scene [d.tree] d.stop)
    (count : Nat) (t : Trail) :
    repeats (trailsOnce scene e) e.bounds count t
      = (blocksFrom (occurrencesAt scene e) e.bounds count t.stop).map fun (block, stop) =>
        t.extend scene (Derivation.trees block) stop := by
  induction count, t using repeats.induct e.bounds with
  | case1 count t ih =>
    rw [repeats, blocksFrom, List.map_append]
    congr 1
    · split
      · exact congrArg (fun t => [t]) Trail.extend_nil.symm
      · rfl
    · split
      · next more =>
        rw [once, List.flatMap_map, List.map_flatMap]
        refine List.flatMap_congr fun d _ => ?_
        rw [ih more, List.map_map]
        refine List.map_congr_left ?_
        rintro ⟨block, stop⟩ -
        exact Trail.extend_extend ..
      · rfl

mutual

theorem trailsOnce_eq (scene : Scene) :
    (e : Element) → ∀ count (t : Trail), trailsOnce scene e count t
      = (occurrencesAt scene e count t.stop).map fun d => t.extend scene [d.tree] d.stop
  | .atom a s, count, t => by
    simp only [trailsOnce, Scene.leaves, occurrencesAt, List.map_map]
    exact List.map_congr_left fun _ _ => Trail.add_leaf ..
  | .sequence children s, count, t => by
    rw [trailsOnce, trailsRow_eq scene children, occurrencesAt, List.filter_map, List.map_map,
      List.map_map]
    exact List.map_congr_left fun _ _ => Trail.close_extend ..
  | .choice branches s, count, t => by
    rw [trailsOnce, trailsBranches_eq scene branches, occurrencesAt, List.filter_map, List.map_map,
      List.map_map]
    exact List.map_congr_left fun _ _ => Trail.close_extend ..

theorem trailsRow_eq (scene : Scene) :
    (es : List Element) → ∀ (t : Trail), trailsRow scene es t
      = (rowsAt scene es t.stop).map fun (blocks, stop) =>
        t.extend scene (Derivation.treesOfBlocks blocks) stop
  | [], t => by
    rw [trailsRow, rowsAt, List.map_singleton]
    exact congrArg (fun t => [t]) Trail.extend_nil.symm
  | e :: es, t => by
    rw [trailsRow, repeats_eq (trailsOnce_eq scene e), rowsAt, List.flatMap_map, List.map_flatMap]
    refine List.flatMap_congr fun ⟨block, mid⟩ _ => ?_
    rw [trailsRow_eq scene es, List.map_map]
    refine List.map_congr_left ?_
    intro ⟨blocks, stop⟩ _
    exact Trail.extend_extend ..

theorem trailsBranches_eq (scene : Scene) :
    (bs : List Element) → ∀ (t : Trail), trailsBranches scene bs t
      = (branchesAt scene bs t.stop).map fun (_, block, stop) =>
        t.extend scene (Derivation.trees block) stop
  | [], t => rfl
  | b :: bs, t => by
    rw [trailsBranches, repeats_eq (trailsOnce_eq scene b), trailsBranches_eq scene bs, branchesAt,
      List.map_append, List.map_map, List.map_map]
    rfl

end

/-- The search finds the matches of plain recursion in the same order. -/
theorem matchesAt_eq_backtrack (scene : Scene) (elements : List Element) (start : Nat) :
    matchesAt scene elements start = backtrack scene elements start := by
  rw [matchesAt_eq, backtrack, trailsRow_eq, List.filter_map, List.map_map]
  rfl

end SpanSearch.Search
