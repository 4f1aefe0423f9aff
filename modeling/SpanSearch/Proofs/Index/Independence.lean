import SpanSearch.Proofs.Index.Links

/-! # What one index does to others

An index that is not disposed keeps its parent, and what it shows by itself comes from the calls to
it alone. Two forests that differ in one index go on to differ in that one only, as long as the
disposals that cascade take the same way in both. So whoever is not linked to an index gets the same
answers whatever that index is asked.
-/

namespace SpanSearch

open Index (Call Answer)

namespace Forest

variable {forest forest' : Forest} {i j k m : Nat} {type : String} {start : Nat} {c : Call}
  {act : Act} {acts : List Act} {site : Site}

/-! ## One index in the course of time -/

theorem after_append {acts' : List Act} :
    forest.after (acts ++ acts') = (forest.after acts).after acts' :=
  List.foldl_append

/-- After one act an index is disposed, or it has its parent and shows what the call to it has made
of it, if there was one. -/
theorem exists_site_step (found : forest.sites[i]? = some site) (act : Act) :
    ∃ site', (forest.step act).sites[i]? = some site'
      ∧ (site.shelf.disposed = true → site'.shelf.disposed = true)
      ∧ (site'.shelf.disposed = true
        ∨ site' = ⟨site.shelf.after (callsTo i [act]), site.parent?⟩) := by
  cases act with
  | grow source parent? =>
    rw [sites_grow, List.getElem?_append_left (List.getElem?_eq_some_iff.1 found).1]
    exact ⟨site, found, id, .inr rfl⟩
  | ask m c =>
    show ∃ site', (forest.serve m c).2.sites[i]? = some site' ∧ _
    rw [sites_serve, List.getElem?_modify, found]
    by_cases here : m = i
    · subst here
      have asked : callsTo m [.ask m c] = [c] := by simp [callsTo]
      refine ⟨site.next c, by simp, fun gone => ?_, ?_⟩
      · rw [Site.shelf_next]
        exact Shelf.disposed_next gone
      · rw [asked]
        cases c with
        | dispose => exact .inl rfl
        | _ => exact .inr rfl
    · have asked : callsTo i [.ask m c] = [] := by simp [callsTo, here]
      rw [asked]
      exact ⟨site, by simp [here], id, .inr rfl⟩
  | cascade m =>
    rw [sites_cascade, found]
    by_cases linked : forest.Linked m i
    · exact ⟨site.dispose, by rw [if_pos linked]; rfl, fun _ => rfl, .inl rfl⟩
    · exact ⟨site, if_neg linked, id, .inr rfl⟩

theorem callsTo_cons (act : Act) (acts : List Act) :
    callsTo i (act :: acts) = callsTo i [act] ++ callsTo i acts :=
  List.filterMap_append (l := [act])

/-- As long as an index is not disposed, it keeps its parent and shows what only the calls to it
have made of it. -/
theorem exists_site_after (found : forest.sites[i]? = some site) (acts : List Act) :
    ∃ site', (forest.after acts).sites[i]? = some site'
      ∧ (site.shelf.disposed = true → site'.shelf.disposed = true)
      ∧ (site'.shelf.disposed = true
        ∨ site' = ⟨site.shelf.after (callsTo i acts), site.parent?⟩) := by
  induction acts generalizing forest site with
  | nil => exact ⟨site, found, id, .inr rfl⟩
  | cons act acts ih =>
    obtain ⟨site₁, found₁, stays₁, step⟩ := exists_site_step found act
    obtain ⟨site₂, found₂, stays₂, later⟩ := ih found₁
    refine ⟨site₂, found₂, stays₂ ∘ stays₁, ?_⟩
    rcases step with gone | rfl
    · exact .inl (stays₂ gone)
    · refine later.imp_right fun eq => ?_
      rw [eq, callsTo_cons act acts, Shelf.after_append]

/-- Whether all that is shown by the indexes themselves starts where it is looked up, in different
sizes. -/
def Orderly (forest : Forest) : Prop := ∀ site ∈ forest.sites, site.shelf.Orderly

theorem Orderly.step (orderly : forest.Orderly) : (forest.step act).Orderly := by
  intro site mem
  cases act with
  | grow source parent? =>
    rw [sites_grow] at mem
    rcases List.mem_append.1 mem with mem | mem
    · exact orderly site mem
    · rw [List.mem_singleton.1 mem]
      exact Shelf.orderly_ofSource
  | ask m c =>
    obtain ⟨k, found⟩ := List.mem_iff_getElem?.1 mem
    rw [Forest.step, sites_serve, List.getElem?_modify] at found
    obtain ⟨site', found', rfl⟩ := Option.map_eq_some_iff.1 found
    have before := orderly site' (List.mem_of_getElem? found')
    split
    · rw [Site.shelf_next]
      exact before.next
    · exact before
  | cascade m =>
    obtain ⟨k, found⟩ := List.mem_iff_getElem?.1 mem
    rw [sites_cascade] at found
    split at found
    · obtain ⟨site', -, rfl⟩ := Option.map_eq_some_iff.1 found
      exact Shelf.orderly_dispose
    · exact orderly site (List.mem_of_getElem? found)

theorem orderly_after : (empty.after acts).Orderly := by
  refine List.foldlRecOn acts Forest.step (fun _ mem => nomatch mem) fun forest orderly act _ => ?_
  exact orderly.step

/-- What an index finds starts where it is looked up, in different sizes. -/
theorem Orderly.annotations (orderly : forest.Orderly) (i : Nat) (type : String) (start : Nat) :
    (forest.annotations i type start).Pairwise (fun a b => a.size ≠ b.size)
      ∧ ∀ a ∈ forest.annotations i type start, a.start = start := by
  induction i using forest.parent_induction with
  | step i ih =>
    cases found : forest.nodes[i]? with
    | none =>
      rw [annotations_of_missing found]
      exact ⟨.nil, List.forall_mem_nil _⟩
    | some node =>
      have own : node.site.shelf.Orderly :=
        orderly _ (List.mem_map_of_mem (List.mem_of_getElem? found))
      have above : (forest.inherited i type start).Pairwise (fun a b => a.size ≠ b.size)
          ∧ ∀ a ∈ forest.inherited i type start, a.start = start := by
        rw [inherited]
        cases link : forest.parent i with
        | none => exact ⟨.nil, List.forall_mem_nil _⟩
        | some p => exact ih p link
      rw [annotations_of_node found]
      split
      · exact ⟨.nil, List.forall_mem_nil _⟩
      · refine ⟨List.pairwise_append.2 ⟨own.sizes type start, above.1.filter _, ?_⟩, ?_⟩
        · intro a mem b mem' same
          obtain ⟨-, free⟩ := List.mem_filter.1 mem'
          exact hasSize_eq_false.1 (Bool.not_eq_true' _ ▸ free) a mem same
        · intro a mem
          rcases List.mem_append.1 mem with mem | mem
          · exact own.starts mem
          · exact above.2 a (List.mem_filter.1 mem).1

/-! ## Forests that differ in one index -/

/-- Whether two forests differ at most in one index. -/
structure AgreeBut (i : Nat) (forest forest' : Forest) : Prop where
  length : forest.nodes.length = forest'.nodes.length
  sites : ∀ {k}, k ≠ i → forest.sites[k]? = forest'.sites[k]?

/-- The parents of all indexes. -/
def links (forest : Forest) : List (Option Nat) := forest.sites.map (·.parent?)

theorem linked_of_links (same : forest.links = forest'.links) :
    forest.Linked i k ↔ forest'.Linked i k := by
  have parents : forest.parent = forest'.parent := by
    funext j
    have link (forest : Forest) : forest.parent j = (forest.links[j]?.join).filter (· < j) := by
      rw [parent_eq, links, List.getElem?_map]
      cases forest.sites[j]? <;> rfl
    rw [link, link, same]
  rw [Linked, Linked, parents]

theorem links_step (same : forest.links = forest'.links) :
    (forest.step act).links = (forest'.step act).links := by
  cases act with
  | grow source parent? =>
    rw [links, links, sites_grow, sites_grow, List.map_append, List.map_append]
    exact congrArg (· ++ _) same
  | ask m c =>
    have cut (forest : Forest) : (forest.step (.ask m c)).links
        = forest.links.modify m fun p => (Site.next ⟨.ofSource .none, p⟩ c).parent? := by
      refine (congrArg (List.map _) sites_serve).trans (map_modify (fun site => ?_) _ _)
      cases c <;> rfl
    rw [cut, cut, same]
  | cascade m =>
    apply List.ext_getElem?
    intro k
    have here := congrArg (·[k]?) same
    simp only [links, List.getElem?_map] at here
    simp only [links, List.getElem?_map, sites_cascade, ← linked_of_links same]
    split
    · simp only [Option.map_map]
      have none (site? : Option Site) : site?.map ((·.parent?) ∘ Site.dispose)
          = (site?.map (·.parent?)).map fun _ => Option.none := by
        rw [Option.map_map]
        rfl
      rw [none, none, here]
    · exact here

namespace AgreeBut

theorem symm (agree : AgreeBut i forest forest') : AgreeBut i forest' forest :=
  ⟨agree.length.symm, fun other => (agree.sites other).symm⟩

theorem parent (agree : AgreeBut i forest forest') (other : k ≠ i) :
    forest.parent k = forest'.parent k := by
  rw [parent_eq, parent_eq, agree.sites other]

/-- The way up from an index is the same if it does not pass the one that differs. -/
theorem linked (agree : AgreeBut i forest forest') (apart : ¬ forest.Linked j i)
    (linked : forest.Linked j k) : forest'.Linked j k := by
  induction linked using Relation.ReflTransGen.head_induction_on with
  | refl => exact .refl
  | @head m p link _ ih =>
    have other : m ≠ i := by
      rintro rfl
      exact apart .refl
    rw [agree.parent other] at link
    exact linked_cons link (ih fun later => apart (linked_cons (agree.parent other ▸ link) later))

theorem apart (agree : AgreeBut i forest forest') (apart : ¬ forest.Linked j i) :
    ¬ forest'.Linked j i := by
  intro linked
  induction linked using Relation.ReflTransGen.head_induction_on with
  | refl => exact apart .refl
  | @head m p link _ ih =>
    refine ih fun later => apart ?_
    by_cases here : m = i
    · rw [here]
      exact .refl
    · exact linked_cons ((agree.parent here).trans link) later

theorem linked_iff (agree : AgreeBut i forest forest') (apart : ¬ forest.Linked j i) :
    forest.Linked j k ↔ forest'.Linked j k :=
  ⟨agree.linked apart, agree.symm.linked (agree.apart apart)⟩

/-- Forests that differ in one index still do so after the same act, if a disposal takes the same way
in both. -/
theorem step (agree : AgreeBut i forest forest')
    (same : ∀ m, act = .cascade m → ∀ k, forest.Linked m k ↔ forest'.Linked m k) :
    AgreeBut i (forest.step act) (forest'.step act) := by
  have length : forest.sites.length = forest'.sites.length := by
    rw [length_sites, length_sites, agree.length]
  cases act with
  | grow source parent? =>
    refine ⟨?_, fun {k} other => ?_⟩
    · rw [← length_sites, ← length_sites, sites_grow, sites_grow, List.length_append,
        List.length_append, length]
    · rw [sites_grow, sites_grow, List.getElem?_append, List.getElem?_append, length,
        agree.sites other]
  | ask m c =>
    refine ⟨?_, fun {k} other => ?_⟩
    · rw [← length_sites, ← length_sites, Forest.step, Forest.step, sites_serve, sites_serve,
        List.length_modify, List.length_modify, length]
    · rw [Forest.step, Forest.step, sites_serve, sites_serve, List.getElem?_modify,
        List.getElem?_modify, agree.sites other]
  | cascade m =>
    refine ⟨?_, fun {k} other => ?_⟩
    · rw [length_cascade, length_cascade, agree.length]
    · simp only [sites_cascade, same m rfl k, agree.sites other]

/-- Forests that differ in one index still do so after the same acts, if that index is linked to the
same parent in both or no disposal comes by it. -/
theorem after (agree : AgreeBut i forest forest')
    (way : forest.links = forest'.links
      ∨ ∀ before m rest, acts = before ++ .cascade m :: rest → ¬ (forest.after before).Linked m i) :
    AgreeBut i (forest.after acts) (forest'.after acts) := by
  induction acts generalizing forest forest' with
  | nil => exact agree
  | cons act acts ih =>
    refine ih (agree.step ?_) (way.imp links_step fun quiet before m rest eq => ?_)
    · rintro m rfl k
      rcases way with same | quiet
      · exact linked_of_links same
      · exact agree.linked_iff (quiet [] m acts rfl)
    · exact quiet (act :: before) m rest (by rw [eq, List.cons_append])

end AgreeBut

/-- A call to an index leaves all others as they are. -/
theorem agreeBut_ask : AgreeBut i (forest.step (.ask i c)) forest where
  length := by
    rw [← length_sites, ← length_sites, step, sites_serve, List.length_modify]
  sites {k} other := by
    rw [step, sites_serve, List.getElem?_modify]
    simp [other.symm]

theorem links_ask (keeps : c ≠ .dispose) : (forest.step (.ask i c)).links = forest.links := by
  rw [links, links, step, sites_serve]
  refine map_modify_of_same (fun site => ?_) _ _
  rw [Site.next_of_ne keeps]

/-- Nothing but growth changes the sources of a forest. -/
theorem sources_step (keeps : ∀ source parent?, act ≠ .grow source parent?) :
    (forest.step act).nodes.map (·.source) = forest.nodes.map (·.source) := by
  cases act with
  | grow source parent? => exact absurd rfl (keeps source parent?)
  | cascade m => exact map_modifyEach_of_same (fun _ => by rfl) _ _
  | ask m c =>
    have update : (forest.update m (fun index source => index.serve source c) .done).2.nodes.map
        (·.source) = forest.nodes.map (·.source) := by
      unfold update
      split
      · rfl
      · exact map_modify_of_same (fun _ => by rfl) _ _
    cases c with
    | annotations => exact (congrArg _ nodes_draw).trans (map_modifyEach_of_same (fun _ => by rfl) _ _)
    | types => rfl
    | dispose => exact map_modifyEach_of_same (fun _ => by rfl) _ _
    | _ => exact update

theorem listed_iff : forest.Listed ↔ ∀ source ∈ forest.nodes.map (·.source), source.Listed :=
  List.forall_mem_map.symm

theorem Listed.after (listed : forest.Listed)
    (grown : ∀ source parent?, .grow source parent? ∈ acts → source.Listed) :
    (forest.after acts).Listed := by
  induction acts generalizing forest with
  | nil => exact listed
  | cons act acts ih =>
    refine ih ?_ fun source parent? mem => grown source parent? (List.mem_cons_of_mem act mem)
    rw [listed_iff] at listed ⊢
    cases act with
    | grow source parent? =>
      rw [step, grow, List.map_append]
      intro source' mem
      rcases List.mem_append.1 mem with mem | mem
      · exact listed source' mem
      · rw [List.mem_singleton.1 mem]
        exact grown source parent? List.mem_cons_self
    | _ =>
      rw [sources_step fun _ _ => by simp]
      exact listed

/-! ## What is found through links -/

variable {before later past : List Act} {source : Source} {parent? : Option Nat}

/-- An index that is not disposed still has the parent it grew with, and shows by itself what an index
without parent would after the same calls. -/
theorem exists_node_grown {i : Nat} (number : i = (empty.after before).nodes.length)
    (open_ : ((empty.after (before ++ .grow source parent? :: later)).index i).disposed = false) :
    ∃ node, (empty.after (before ++ .grow source parent? :: later)).nodes[i]? = some node
      ∧ node.index.disposed = false
      ∧ node.site = ⟨(Shelf.ofSource source).after (callsTo i later), parent?⟩ := by
  rw [after_append] at open_ ⊢
  have grown : ((empty.after before).step (.grow source parent?)).sites[i]?
      = some ⟨.ofSource source, parent?⟩ := by
    rw [sites_grow, number, ← length_sites, List.getElem?_concat_length]
  obtain ⟨site, found, -, stays⟩ := exists_site_after grown later
  rw [sites, List.getElem?_map] at found
  obtain ⟨node, there, rfl⟩ := Option.map_eq_some_iff.1 found
  have same : (((empty.after before).after (.grow source parent? :: later)).index i) = node.index := by
    show ((((empty.after before).step (.grow source parent?)).after later).nodes[i]?.map _).getD _ = _
    rw [there]
    rfl
  rw [same] at open_
  refine ⟨node, there, open_, stays.resolve_left fun gone => ?_⟩
  have gone : node.index.disposed = true := gone
  rw [open_] at gone
  cases gone

/-- An index that is not disposed finds what an index without parent would after the same calls,
and then what its parent finds now and is of another size, so all that it finds starts where it is
looked up, in different sizes. -/
theorem annotations_grown {i : Nat} (number : i = (empty.after before).nodes.length)
    (open_ : ((empty.after (before ++ .grow source parent? :: later)).index i).disposed = false) :
    let forest := empty.after (before ++ .grow source parent? :: later)
    let own := (Index.empty.after source (callsTo i later)).annotations source type start
    forest.annotations i type start
      = own ++ ((parent?.filter (· < i)).elim [] fun p => forest.annotations p type start).filter
          fun a => !hasSize own a := by
  intro forest own
  obtain ⟨node, found, open_, site⟩ := exists_node_grown number open_
  have shown : node.site.shelf.held type start = own := by
    have same : (Index.empty.after source (callsTo i later)).shelf source = node.site.shelf := by
      rw [site, Index.shelf_after, Index.shelf_empty]
    rw [← same]
    rfl
  have link : forest.parent i = parent?.filter (· < i) := by
    have same : node.parent? = parent? := congrArg Site.parent? site
    rw [parent, found, ← same]
    rfl
  rw [annotations_of_node found, open_, if_neg Bool.false_ne_true, shown, inherited, link]

/-- A call to an index changes no answer of an index that is not linked to it, whatever is done in
between. A disposal of the index ends the way of those that cascade later and come by it, so none of
these may come by it here. -/
theorem serve_apart {i j : Nat} {c c' : Call}
    (quiet : c = .dispose → ∀ before m rest, later = before ++ .cascade m :: rest →
      ¬ (empty.after (past ++ .ask i c :: before)).Linked m i)
    (apart : ¬ (empty.after (past ++ .ask i c :: later)).Linked j i)
    (listed : c' = .types → ∀ source parent?, .grow source parent? ∈ past ++ later → source.Listed) :
    ((empty.after (past ++ .ask i c :: later)).serve j c').1
      = ((empty.after (past ++ later)).serve j c').1 := by
  have way : ((empty.after past).step (.ask i c)).links = (empty.after past).links
      ∨ ∀ before m rest, later = before ++ .cascade m :: rest →
        ¬ (((empty.after past).step (.ask i c)).after before).Linked m i := by
    by_cases cuts : c = .dispose
    · refine .inr fun before m rest eq => ?_
      have := quiet cuts before m rest eq
      rwa [after_append] at this
    · exact .inl (links_ask cuts)
  have agree : AgreeBut i (empty.after (past ++ .ask i c :: later)) (empty.after (past ++ later)) := by
    rw [after_append, after_append]
    exact agreeBut_ask.after way
  refine serve_congr (fun types => ?_) (fun k => agree.linked_iff apart) fun k linked => ?_
  · have none : empty.Listed := fun _ mem => nomatch mem
    refine ⟨none.after fun source parent? mem => listed types source parent? ?_,
      none.after (listed types)⟩
    simpa using mem
  · refine agree.sites ?_
    rintro rfl
    exact apart linked

/-- A cascading disposal disposes an index and those that it is linked to, and leaves all others as
they are. -/
theorem disposed_cascade {i j : Nat} (there : i < forest.nodes.length) :
    (((forest.step (.cascade i)).index j).disposed = true
        ↔ (forest.index j).disposed = true ∨ forest.Linked i j)
      ∧ (¬ forest.Linked i j → (forest.step (.cascade i)).nodes[j]? = forest.nodes[j]?) := by
  refine ⟨?_, fun apart => by rw [nodes_cascade, if_neg apart]⟩
  rw [index, index, nodes_cascade]
  by_cases linked : forest.Linked i j
  · have found := List.getElem?_eq_getElem (Nat.lt_of_le_of_lt (le_of_linked linked) there)
    rw [if_pos linked, found]
    exact ⟨fun _ => .inr linked, fun _ => rfl⟩
  · rw [if_neg linked, or_iff_left linked]

/-- A parent with two children. -/
def family : List Act :=
  [.grow (.ofList [.ofSpan "x" 0 1, .ofSpan "x" 0 3]) none, .grow .none (some 0),
    .grow .none (some 0)]

end Forest

end SpanSearch
