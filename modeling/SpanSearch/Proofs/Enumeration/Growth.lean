import SpanSearch.Proofs.Enumeration.Steps

/-! # Growth of chains

Each round makes open chains of open chains, and the closing round makes chains of them. No two of
the chains that are kept have the same key.
-/

namespace SpanSearch.Enumeration

/-- Whether no two chains have the same key. -/
def Distinct (chains : List (List Annotation)) : Prop :=
  chains.Pairwise fun x y => keyOf x ≠ keyOf y

variable {config : Config} {tokens : List Token} {parts : Parts}
  {chains others : List (List Annotation)} {rounds first : Nat} {members : List Annotation}
  {separators elements : List Annotation} {separator element : Annotation → Prop} {a e : Annotation}

/-! ## Adding chains -/

theorem addNew_cons {other : List Annotation} : addNew chains (other :: others)
    = addNew (if chains.any (keyOf · == keyOf other) then chains else chains ++ [other]) others :=
  rfl

/-- Chains that are added come after those that were there. -/
theorem addNew_eq_append : ∃ fresh, addNew chains others = chains ++ fresh ∧ fresh ⊆ others := by
  induction others generalizing chains with
  | nil => exact ⟨[], (List.append_nil _).symm, List.nil_subset _⟩
  | cons other others ih =>
    rw [addNew_cons]
    split
    · obtain ⟨fresh, eq, sub⟩ := @ih chains
      exact ⟨fresh, eq, fun c mem => List.mem_cons_of_mem other (sub mem)⟩
    · obtain ⟨fresh, eq, sub⟩ := @ih (chains ++ [other])
      exact ⟨other :: fresh, by rw [eq, List.append_assoc, List.singleton_append],
        List.cons_subset_cons other sub⟩

theorem subset_addNew : chains ⊆ addNew chains others := by
  obtain ⟨fresh, eq, -⟩ := @addNew_eq_append chains others
  rw [eq]
  exact List.subset_append_left ..

theorem mem_addNew (mem : members ∈ addNew chains others) : members ∈ chains ∨ members ∈ others := by
  obtain ⟨fresh, eq, sub⟩ := @addNew_eq_append chains others
  rw [eq, List.mem_append] at mem
  exact mem.imp_right fun mem => sub mem

/-- Each chain that is added has its key among the chains then. -/
theorem exists_addNew (mem : members ∈ others) :
    ∃ same ∈ addNew chains others, keyOf same = keyOf members := by
  induction others generalizing chains with
  | nil => cases mem
  | cons other others ih =>
    rw [addNew_cons]
    rcases List.mem_cons.1 mem with rfl | mem
    · split
      · next known =>
        obtain ⟨same, mem, key⟩ := List.any_eq_true.1 known
        exact ⟨same, subset_addNew mem, eq_of_beq key⟩
      · exact ⟨members, subset_addNew (by simp), rfl⟩
    · exact ih mem

theorem Distinct.addNew (distinct : Distinct chains) : Distinct (addNew chains others) := by
  induction others generalizing chains with
  | nil => exact distinct
  | cons other others ih =>
    rw [addNew_cons]
    split
    · exact ih distinct
    · next unknown =>
      refine ih (List.pairwise_append.2 ⟨distinct, List.pairwise_singleton .., fun x mem y mem' => ?_⟩)
      obtain rfl := List.mem_singleton.1 mem'
      exact fun same => unknown (List.any_eq_true.2 ⟨x, mem, beq_iff_eq.2 same⟩)

/-! ## Rounds -/

theorem Foremost.mem {annotations : List Annotation} (foremost : Foremost annotations a) :
    a ∈ annotations :=
  List.mem_of_find?_eq_some foremost

theorem Ready.mem (ready : Ready tokens chains first members) : members ∈ chains :=
  List.mem_of_mem_drop (List.mem_of_find?_eq_some ready.visible)

theorem lastSeparators_subset : parts.separators ++ parts.endSeparators ⊆ parts.annotations := by
  intro a mem
  rcases List.mem_append.1 mem with mem | mem <;> simp [Parts.annotations, mem]

theorem lastElements_subset : parts.elements ++ parts.ends ⊆ parts.annotations := by
  intro a mem
  rcases List.mem_append.1 mem with mem | mem <;> simp [Parts.annotations, mem]

theorem allBounded_open (bounded : ∀ a ∈ parts.annotations, a.Bounded) :
    AllBounded parts.starts parts.separators parts.elements := by
  rintro a (mem | mem | mem) <;> exact bounded a (by simp [Parts.annotations, mem])

theorem allBounded_closed (bounded : ∀ a ∈ parts.annotations, a.Bounded) :
    AllBounded parts.starts (parts.separators ++ parts.endSeparators)
      (parts.elements ++ parts.ends) := by
  rintro a (mem | mem | mem)
  · exact bounded a (by simp [Parts.annotations, mem])
  · exact bounded a (lastSeparators_subset mem)
  · exact bounded a (lastElements_subset mem)

/-- A step that a search finds is one from the last member of the chain. -/
theorem Continues.joins (continues : Continues separator element members e)
    (separators_of : ∀ s, separator s → s ∈ separators) (elements_of : ∀ e, element e → e ∈ elements)
    (bounded : ∀ s ∈ separators, s.Bounded)
    (ends : (spanOf members).start + (spanOf members).size = a.stop) :
    Joins separators elements a e := by
  obtain ⟨s, is_s, -, start_s, is_e, -, start_e⟩ := continues
  have mem := separators_of s is_s
  exact ⟨elements_of e is_e, s, mem, start_s.trans ends, start_e.trans (stop_eq (bounded s mem)).symm⟩

/-- A step that a search finds makes an open chain of an open chain. -/
theorem Continues.isOpen
    (continues : Continues (Foremost parts.separators) (Foremost parts.elements) members e)
    (bounded : ∀ a ∈ parts.annotations, a.Bounded) (isOpen : IsOpen parts members) :
    IsOpen parts (members ++ [e]) := by
  obtain ⟨-, last, -, end_, -, -, ends, -⟩ := isOpen.span (allBounded_open bounded)
  exact linked_snoc.2 (.inr ⟨last, end_, isOpen, continues.joins (fun _ => Foremost.mem)
    (fun _ => Foremost.mem) (fun s mem => bounded s (by simp [Parts.annotations, mem])) ends⟩)

theorem isChain_of_joins (isOpen : IsOpen parts members) (end_ : members.getLast? = some a)
    (joins : Joins (parts.separators ++ parts.endSeparators) (parts.elements ++ parts.ends) a e) :
    IsChain parts (members ++ [e]) := by
  obtain ⟨front, rfl⟩ := List.getLast?_eq_some_iff.1 end_
  rw [List.append_assoc]
  exact .closed isOpen joins

/-- The last step makes a chain of an open chain. -/
theorem Continues.isChain
    (continues : Continues (fun s => Foremost parts.separators s ∨ Foremost parts.endSeparators s)
      (fun e => Foremost parts.elements e ∨ Foremost parts.ends e) members e)
    (bounded : ∀ a ∈ parts.annotations, a.Bounded) (isOpen : IsOpen parts members) :
    IsChain parts (members ++ [e]) := by
  obtain ⟨-, last, -, end_, -, -, ends, -⟩ := isOpen.span (allBounded_open bounded)
  refine isChain_of_joins isOpen end_ (continues.joins
    (fun s first => List.mem_append.2 (first.imp Foremost.mem Foremost.mem))
    (fun e first => List.mem_append.2 (first.imp Foremost.mem Foremost.mem)) (fun s mem => ?_) ends)
  exact allBounded_closed bounded s (.inr (.inl mem))

theorem tidy_round (bounded : ∀ a ∈ parts.annotations, a.Bounded)
    (isOpen : ∀ members ∈ chains, IsOpen parts members) : (roundIndex parts chains first).Tidy := by
  refine tidy_roundIndex bounded fun members mem => ?_
  obtain ⟨-, -, -, -, -, -, -, bounded⟩ := (isOpen members mem).span (allBounded_open bounded)
  exact bounded

/-- Chains stay open while they are grown. -/
theorem isOpen_grow (bounded : ∀ a ∈ parts.annotations, a.Bounded)
    (isOpen : ∀ members ∈ chains, IsOpen parts members) :
    ∀ members ∈ grow config tokens (partsIndex parts) rounds chains first, IsOpen parts members := by
  induction rounds generalizing chains first with
  | zero => exact isOpen
  | succ rounds ih =>
    rw [grow]
    split
    · exact isOpen
    · refine ih fun members mem => ?_
      rcases mem_addNew mem with mem | mem
      · exact isOpen members mem
      · obtain ⟨front, e, ready, continues, rfl⟩ := (mem_stepped_step (tidy_round bounded isOpen)).1 mem
        exact continues.isOpen bounded (isOpen front ready.mem)

/-! ## What is found -/

/-- The chains with which enumerations begin. -/
def seeds (parts : Parts) : List (List Annotation) := addNew [] (parts.starts.map ([·]))

/-- The chains that are grown in a number of rounds. -/
def candidates (config : Config) (rounds : Nat) (tokens : List Token) (parts : Parts) :
    List (List Annotation) :=
  grow config tokens (partsIndex parts) rounds (seeds parts) 0

/-- The chains that the closing round finds. -/
def found (config : Config) (rounds : Nat) (tokens : List Token) (parts : Parts) :
    List (List Annotation) :=
  stepped config tokens (partsIndex parts) lastPattern (candidates config rounds tokens parts) 0

/-- Chains are never lost while they are grown. -/
theorem subset_grow : chains ⊆ grow config tokens (partsIndex parts) rounds chains first := by
  induction rounds generalizing chains first with
  | zero => exact List.Subset.refl _
  | succ rounds ih =>
    rw [grow]
    split
    · exact List.Subset.refl _
    · exact List.Subset.trans subset_addNew ih

theorem isOpen_seeds : ∀ members ∈ seeds parts, IsOpen parts members := by
  intro members mem
  rcases mem_addNew mem with mem | mem
  · cases mem
  · obtain ⟨m, start, rfl⟩ := List.mem_map.1 mem
    exact linked_singleton.2 start

theorem isOpen_candidates (bounded : ∀ a ∈ parts.annotations, a.Bounded) :
    ∀ members ∈ candidates config rounds tokens parts, IsOpen parts members :=
  isOpen_grow bounded isOpen_seeds

/-- What the closing round finds are chains. -/
theorem isChain_found (bounded : ∀ a ∈ parts.annotations, a.Bounded) :
    ∀ members ∈ found config rounds tokens parts, IsChain parts members := by
  intro members mem
  have isOpen : ∀ members ∈ candidates config rounds tokens parts, IsOpen parts members :=
    isOpen_candidates bounded
  obtain ⟨front, ready, rfl | ⟨e, continues, rfl⟩⟩ := (mem_stepped_last (tidy_round bounded isOpen)).1 mem
  · exact .ofOpen (isOpen _ ready.mem)
  · exact continues.isChain bounded (isOpen front ready.mem)

end SpanSearch.Enumeration
