import Mathlib.Logic.Relation
import SpanSearch.Proofs.Index.Shelf

/-! # Linked indexes

What an index shows besides its own annotations is what its parent shows at that moment. To look
something up draws annotations into many indexes, but changes the shelf of none. So all that is done
with one index is seen in that index and below it only, and the way up from an index is the way that
its disposal takes if it cascades.
-/

namespace SpanSearch

open Index (Call Answer)

namespace Forest

/-- What is done with a forest. -/
inductive Act where
  | grow (source : Source) (parent? : Option Nat)
  /-- A call to an index. To dispose it does not cascade. -/
  | ask (i : Nat) (c : Call)
  /-- An index is disposed, and the disposal cascades. -/
  | cascade (i : Nat)

/-- The answer of an index to a call, and the forest after it. -/
def serve (forest : Forest) (i : Nat) : Call → Answer × Forest
  | .annotations type start => (.found (forest.annotations i type start), forest.draw i type)
  | .types => (.listed (forest.types i), forest)
  | .dispose => (.done, forest.dispose i false)
  | c => forest.update i (fun index source => index.serve source c) .done

/-- The forest after an act. -/
def step (forest : Forest) : Act → Forest
  | .grow source parent? => (forest.grow source parent?).2
  | .ask i c => (forest.serve i c).2
  | .cascade i => forest.dispose i true

/-- The forest after several acts. -/
def after (forest : Forest) (acts : List Act) : Forest := acts.foldl step forest

/-- The calls to one index among several acts. -/
def callsTo (i : Nat) (acts : List Act) : List Call :=
  acts.filterMap fun
    | .ask j c => if j = i then some c else none
    | _ => none

/-! ## Links -/

/-- The number of the parent of an index, which is lower than its own. -/
def parent (forest : Forest) (i : Nat) : Option Nat :=
  (forest.nodes[i]?.bind (·.parent?)).filter (· < i)

/-- Whether an index is another one or is linked to it by parents. -/
def Linked (forest : Forest) : Nat → Nat → Prop :=
  Relation.ReflTransGen fun i p => forest.parent i = some p

variable {forest forest' : Forest} {i j k p : Nat} {type : String} {start : Nat} {c : Call}
  {act : Act} {acts : List Act} {source : Source} {parent? : Option Nat}

theorem parent_lt (h : forest.parent i = some p) : p < i := by
  simpa using (Option.filter_eq_some_iff.1 h).2

/-- What is true of an index if it is of its parent is true of all. -/
theorem parent_induction {motive : Nat → Prop}
    (step : ∀ i, (∀ p, forest.parent i = some p → motive p) → motive i) (i : Nat) : motive i := by
  induction i using Nat.strongRecOn with
  | ind i ih => exact step i fun p link => ih p (parent_lt link)

theorem chain_eq {node : Node} (found : forest.nodes[i]? = some node) :
    forest.chain i = (i, node) :: (forest.parent i).elim [] forest.chain := by
  rw [chain, parent]
  simp only [found, Option.bind_some]
  cases node.parent? with
  | none => rfl
  | some p =>
    by_cases below : p < i
    · simp [below, Option.filter]
    · simp [below, Option.filter]

theorem chain_of_missing (missing : forest.nodes[i]? = none) : forest.chain i = [] := by
  rw [chain, missing]

theorem le_of_linked (linked : forest.Linked i k) : k ≤ i := by
  induction linked with
  | refl => exact Nat.le_refl i
  | tail _ link ih => exact Nat.le_trans (Nat.le_of_lt (parent_lt link)) ih

theorem linked_cons (link : forest.parent i = some p) (later : forest.Linked p j) :
    forest.Linked i j :=
  Relation.ReflTransGen.head link later

theorem parent_of_missing (missing : forest.nodes[i]? = none) : forest.parent i = none := by
  rw [parent, missing]
  rfl

/-- The indexes in the chain of an index are those that it is linked to. -/
theorem mem_chain_iff (there : i < forest.nodes.length) :
    k ∈ (forest.chain i).map (·.1) ↔ forest.Linked i k := by
  induction i using forest.parent_induction with
  | step i ih =>
    have found := List.getElem?_eq_getElem there
    rw [chain_eq found, List.map_cons, List.mem_cons]
    constructor
    · rintro (rfl | mem)
      · exact .refl
      · cases link : forest.parent i with
        | none =>
          rw [link] at mem
          cases mem
        | some p =>
          rw [link] at mem
          exact linked_cons link ((ih p link (Nat.lt_trans (parent_lt link) there)).1 mem)
    · intro linked
      rcases Relation.ReflTransGen.cases_head linked with rfl | ⟨p, link, later⟩
      · exact .inl rfl
      · refine .inr ?_
        rw [link]
        exact (ih p link (Nat.lt_trans (parent_lt link) there)).2 later

theorem linked_of_missing (missing : forest.nodes[i]? = none) (linked : forest.Linked i k) :
    k = i := by
  rcases Relation.ReflTransGen.cases_head linked with same | ⟨p, link, -⟩
  · exact same.symm
  · rw [parent_of_missing missing] at link
    cases link

theorem linked_iff : forest.Linked i k ↔ k = i ∨ k ∈ (forest.chain i).map (·.1) := by
  cases found : forest.nodes[i]? with
  | some node =>
    rw [mem_chain_iff (List.getElem?_eq_some_iff.1 found).1, or_iff_right_of_imp]
    rintro rfl
    exact .refl
  | none =>
    rw [chain_of_missing found]
    constructor
    · exact fun linked => .inl (linked_of_missing found linked)
    · rintro (rfl | mem)
      · exact .refl
      · cases mem

theorem lt_of_linked (linked : forest.Linked i k) (there : k < forest.nodes.length) :
    i < forest.nodes.length := by
  by_contra missing
  obtain rfl := linked_of_missing (List.getElem?_eq_none (Nat.le_of_not_lt missing)) linked
  exact missing there

instance : Decidable (forest.Linked i k) := decidable_of_iff _ linked_iff.symm

/-! ## Changes in lists -/

theorem map_modify {f : α → β} {change : α → α} {change' : β → β}
    (same : ∀ a, f (change a) = change' (f a)) (list : List α) (i : Nat) :
    (list.modify i change).map f = (list.map f).modify i change' := by
  apply List.ext_getElem?
  intro j
  simp only [List.getElem?_map, List.getElem?_modify, Option.map_map, Option.map_eq_map]
  congr 1
  funext a
  simp only [Function.comp_apply]
  split
  · exact same a
  · rfl

theorem map_modify_of_same {f : α → β} {change : α → α} (same : ∀ a, f (change a) = f a)
    (list : List α) (i : Nat) : (list.modify i change).map f = list.map f :=
  (map_modify same list i).trans (List.modify_id i _)

theorem map_modifyEach {f : α → β} {change : α → α} {change' : β → β}
    (same : ∀ a, f (change a) = change' (f a)) (list : List α) (is : List Nat) :
    (is.foldl (fun list i => list.modify i change) list).map f
      = is.foldl (fun list i => list.modify i change') (list.map f) := by
  induction is generalizing list with
  | nil => rfl
  | cons i is ih => rw [List.foldl_cons, ih, map_modify same, List.foldl_cons]

/-- What is changed for good is changed wherever a change is made, and nowhere else. -/
theorem getElem?_modifyEach {change : α → α} (still : ∀ a, change (change a) = change a)
    (list : List α) (is : List Nat) (k : Nat) :
    (is.foldl (fun list i => list.modify i change) list)[k]?
      = if k ∈ is then list[k]?.map change else list[k]? := by
  induction is generalizing list with
  | nil => rfl
  | cons i is ih =>
    rw [List.foldl_cons, ih, List.getElem?_modify]
    by_cases here : i = k
    · subst here
      simp [Function.comp_def, still]
    · simp [here, Ne.symm here]

/-- What looks the same after each change looks the same after all of them. -/
theorem map_modifyEach_of_same {f : α → β} {change : α → α} (same : ∀ a, f (change a) = f a)
    (list : List α) (is : List Nat) :
    (is.foldl (fun list i => list.modify i change) list).map f = list.map f := by
  induction is generalizing list with
  | nil => rfl
  | cons i is ih => rw [List.foldl_cons, ih, map_modify_of_same same]

theorem length_modifyEach {change : α → α} (list : List α) (is : List Nat) :
    (is.foldl (fun list i => list.modify i change) list).length = list.length := by
  induction is generalizing list with
  | nil => rfl
  | cons i is ih => rw [List.foldl_cons, ih, List.length_modify]

/-! ## Sites -/

/-- What an index shows by itself, and its parent. -/
structure Site where
  shelf : Shelf
  parent? : Option Nat

def Node.site (node : Node) : Site := ⟨node.index.shelf node.source, node.parent?⟩

def Site.dispose (site : Site) : Site := ⟨site.shelf.dispose, none⟩

/-- The site after a call. -/
def Site.next (site : Site) : Call → Site
  | .dispose => site.dispose
  | c => ⟨site.shelf.next c, site.parent?⟩

/-- The sites of all indexes. -/
def sites (forest : Forest) : List Site := forest.nodes.map Node.site

theorem length_sites : forest.sites.length = forest.nodes.length := List.length_map ..

theorem getElem?_sites : forest.sites[i]? = forest.nodes[i]?.map Node.site := List.getElem?_map ..

theorem parent_eq : forest.parent i = (forest.sites[i]?.bind (·.parent?)).filter (· < i) := by
  rw [parent, getElem?_sites, Option.bind_map]
  rfl

/-- Where two forests have the same site, if any, both have an index, if any. -/
theorem nodes_of_sites (same : forest.sites[i]? = forest'.sites[i]?) :
    (forest.nodes[i]? = none ∧ forest'.nodes[i]? = none)
      ∨ ∃ node node', forest.nodes[i]? = some node ∧ forest'.nodes[i]? = some node'
        ∧ node'.site = node.site := by
  rw [getElem?_sites, getElem?_sites] at same
  cases found : forest.nodes[i]? with
  | none =>
    rw [found] at same
    exact .inl ⟨rfl, Option.map_eq_none_iff.1 same.symm⟩
  | some node =>
    rw [found] at same
    obtain ⟨node', found', site⟩ := Option.map_eq_some_iff.1 same.symm
    exact .inr ⟨node, node', rfl, found', site⟩

theorem sites_grow :
    (forest.step (.grow source parent?)).sites
      = forest.sites ++ [⟨.ofSource source, parent?⟩] := by
  rw [step, grow, sites, List.map_append, ← Index.shelf_empty]
  rfl

theorem nodes_draw :
    (forest.draw i type).nodes = ((forest.chain i).map (·.1)).foldl
      (fun nodes j => nodes.modify j fun node =>
        { node with index := node.index.draw node.source type }) forest.nodes := by
  rw [List.foldl_map]
  rfl

theorem sites_draw : (forest.draw i type).sites = forest.sites := by
  rw [sites, nodes_draw]
  refine map_modifyEach_of_same (fun node => ?_) _ _
  rw [Node.site, Index.shelf_draw]
  rfl

theorem sites_dispose {cascade : Bool} :
    (forest.dispose i cascade).sites
      = (if cascade then (forest.chain i).map (·.1) else [i]).foldl
          (fun sites j => sites.modify j Site.dispose) forest.sites := by
  refine map_modifyEach (fun node => ?_) _ _
  rw [Node.site, Index.shelf_dispose]
  rfl

theorem Site.shelf_next {site : Site} : (site.next c).shelf = site.shelf.next c := by
  cases c <;> rfl

theorem Site.next_of_ne {site : Site} (keeps : c ≠ .dispose) :
    site.next c = ⟨site.shelf.next c, site.parent?⟩ := by
  cases c with
  | dispose => exact absurd rfl keeps
  | _ => rfl

theorem sites_update (keeps : c ≠ .dispose) :
    (forest.update i (fun index source => index.serve source c) .done).2.sites
      = forest.sites.modify i (·.next c) := by
  apply List.ext_getElem?
  intro k
  rw [List.getElem?_modify, getElem?_sites, getElem?_sites, update]
  cases found : forest.nodes[i]? with
  | none =>
    by_cases here : i = k
    · subst here
      simp [found]
    · simp [here]
  | some node =>
    have served : Node.site { node with index := (node.index.serve node.source c).2 }
        = node.site.next c := by
      rw [Site.next_of_ne keeps, Node.site, Index.shelf_serve]
      rfl
    simp only [setIndex, List.getElem?_modify]
    by_cases here : i = k
    · subst here
      simp [found, served]
    · simp [here]

/-- A call changes one site and no more. -/
theorem sites_serve : (forest.serve i c).2.sites = forest.sites.modify i (·.next c) := by
  cases c with
  | annotations => exact sites_draw.trans (List.modify_id i forest.sites).symm
  | types => exact (List.modify_id i forest.sites).symm
  | dispose => exact sites_dispose
  | _ => exact sites_update nofun

def Node.dispose (node : Node) : Node :=
  { node with index := node.index.dispose, parent? := none }

theorem length_cascade : (forest.step (.cascade i)).nodes.length = forest.nodes.length :=
  length_modifyEach ..

/-- A cascading disposal disposes an index and all that it is linked to, and nothing else. -/
theorem nodes_cascade :
    (forest.step (.cascade i)).nodes[k]?
      = if forest.Linked i k then forest.nodes[k]?.map Node.dispose else forest.nodes[k]? := by
  have still (node : Node) : node.dispose.dispose = node.dispose := rfl
  refine (getElem?_modifyEach still forest.nodes ((forest.chain i).map (·.1)) k).trans ?_
  cases found : forest.nodes[i]? with
  | some node => simp only [mem_chain_iff (List.getElem?_eq_some_iff.1 found).1]
  | none =>
    rw [chain_of_missing found, List.map_nil, if_neg List.not_mem_nil]
    split
    · next linked =>
      rw [linked_of_missing found linked, found]
      rfl
    · rfl

theorem sites_cascade :
    (forest.step (.cascade i)).sites[k]?
      = if forest.Linked i k then forest.sites[k]?.map Site.dispose else forest.sites[k]? := by
  rw [getElem?_sites, getElem?_sites, nodes_cascade]
  split
  · rw [Option.map_map, Option.map_map]
    rfl
  · rfl

/-! ## Lookups -/

/-- What the parent of an index shows. -/
def inherited (forest : Forest) (i : Nat) (type : String) (start : Nat) : List Annotation :=
  (forest.parent i).elim [] fun p => forest.annotations p type start

theorem annotations_of_missing (missing : forest.nodes[i]? = none) :
    forest.annotations i type start = [] := by
  rw [annotations, chain_of_missing missing]
  rfl

/-- An index that is not disposed shows its own annotations and then those of its parent of which it
does not have the size. -/
theorem annotations_of_node {node : Node} (found : forest.nodes[i]? = some node) :
    forest.annotations i type start
      = if node.index.disposed then []
        else node.site.shelf.held type start
          ++ (forest.inherited i type start).filter
              fun a => !hasSize (node.site.shelf.held type start) a := by
  rw [annotations, chain_eq found, annotationsIn, inherited]
  cases forest.parent i <;> rfl

/-- What an index shows depends on its own site and those that it is linked to. -/
theorem annotations_congr
    (same : ∀ k, forest.Linked i k → forest.sites[k]? = forest'.sites[k]?) :
    forest.annotations i type start = forest'.annotations i type start := by
  induction i using forest.parent_induction with
  | step i ih =>
    have here : forest.sites[i]? = forest'.sites[i]? := same i .refl
    have link : forest.parent i = forest'.parent i := by rw [parent_eq, parent_eq, here]
    have above : forest.inherited i type start = forest'.inherited i type start := by
      rw [inherited, inherited, ← link]
      cases up : forest.parent i with
      | none => rfl
      | some p => exact ih p up fun k linked => same k (linked_cons up linked)
    rcases nodes_of_sites here with ⟨missing, missing'⟩ | ⟨node, node', found, found', site⟩
    · rw [annotations_of_missing missing, annotations_of_missing missing']
    · have gone : node'.index.disposed = node.index.disposed :=
        congrArg (fun site => site.shelf.disposed) site
      rw [annotations_of_node found, annotations_of_node found', site, above, gone]

theorem mem_chain {entry : Nat × Node} (mem : entry ∈ forest.chain i) :
    forest.nodes[entry.1]? = some entry.2 := by
  induction i using forest.parent_induction with
  | step i ih =>
    cases found : forest.nodes[i]? with
    | none =>
      rw [chain_of_missing found] at mem
      cases mem
    | some node =>
      rw [chain_eq found] at mem
      rcases List.mem_cons.1 mem with rfl | mem
      · exact found
      · cases link : forest.parent i with
        | none =>
          rw [link] at mem
          cases mem
        | some p =>
          rw [link] at mem
          exact ih p link mem

/-- Whether all sources name the types that they have annotations of. -/
def Listed (forest : Forest) : Prop := ∀ node ∈ forest.nodes, node.source.Listed

/-- The types of an index are those that it or one that it is linked to knows. -/
theorem mem_types (listed : forest.Listed) :
    type ∈ forest.types i
      ↔ ∃ k site, forest.Linked i k ∧ forest.sites[k]? = some site ∧ site.shelf.Knows type := by
  rw [types, TextSet.mem_keys_ofTexts, List.mem_flatMap]
  constructor
  · rintro ⟨⟨k, node⟩, mem, known⟩
    have found := mem_chain mem
    have there : i < forest.nodes.length := by
      by_contra missing
      rw [chain_of_missing (List.getElem?_eq_none (Nat.le_of_not_lt missing))] at mem
      cases mem
    refine ⟨k, node.site, (mem_chain_iff there).1 (List.mem_map_of_mem mem), ?_, ?_⟩
    · rw [getElem?_sites, found]
      rfl
    · exact (Index.mem_types (listed node (List.mem_of_getElem? found))).1 known
  · rintro ⟨k, site, linked, found, known⟩
    rw [getElem?_sites] at found
    obtain ⟨node, there, rfl⟩ := Option.map_eq_some_iff.1 found
    have within := lt_of_linked linked (List.getElem?_eq_some_iff.1 there).1
    obtain ⟨⟨k, node'⟩, mem, rfl⟩ := List.mem_map.1 ((mem_chain_iff within).2 linked)
    obtain rfl : node' = node := Option.some.inj ((mem_chain mem).symm.trans there)
    exact ⟨_, mem, (Index.mem_types (listed node' (List.mem_of_getElem? there))).2 known⟩

theorem types_congr (listed : forest.Listed) (listed' : forest'.Listed)
    (links : ∀ k, forest.Linked i k ↔ forest'.Linked i k)
    (same : ∀ k, forest.Linked i k → forest.sites[k]? = forest'.sites[k]?) :
    forest.types i = forest'.types i := by
  refine TextSet.eq_of_ascending (TextSet.pairwise_keys _) (TextSet.pairwise_keys _) fun type => ?_
  show type ∈ forest.types i ↔ type ∈ forest'.types i
  rw [mem_types listed, mem_types listed']
  refine exists_congr fun k => exists_congr fun site => ?_
  rw [← links]
  exact and_congr_right fun linked => by rw [same k linked]

/-- The answers of an index depend on its own site and those that it is linked to. -/
theorem serve_congr (listed : c = .types → forest.Listed ∧ forest'.Listed)
    (links : ∀ k, forest.Linked i k ↔ forest'.Linked i k)
    (same : ∀ k, forest.Linked i k → forest.sites[k]? = forest'.sites[k]?) :
    (forest.serve i c).1 = (forest'.serve i c).1 := by
  have update (keeps : c ≠ .types) :
      (forest.update i (fun index source => index.serve source c) .done).1
        = (forest'.update i (fun index source => index.serve source c) .done).1 := by
    rcases nodes_of_sites (same i .refl) with ⟨missing, missing'⟩ | ⟨node, node', found, found', site⟩
    · rw [Forest.update, Forest.update, missing, missing']
    · have shelves : node'.index.shelf node'.source = node.index.shelf node.source :=
        congrArg Site.shelf site
      have reply (node : Node) : (node.index.shelf node.source).Replies c
          (node.index.serve node.source c).1 :=
        Index.replies_serve fun types => absurd types keeps
      rw [Forest.update, Forest.update, found, found']
      exact (reply node).unique (shelves ▸ reply node')
  cases c with
  | annotations => exact congrArg Answer.found (annotations_congr same)
  | types => exact congrArg Answer.listed (types_congr (listed rfl).1 (listed rfl).2 links same)
  | dispose => rfl
  | _ => exact update nofun

end Forest

end SpanSearch
