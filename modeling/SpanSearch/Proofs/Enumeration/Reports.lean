import SpanSearch.Proofs.Annotation.Order
import SpanSearch.Proofs.Enumeration.Growth

/-! # Reported enumerations

The enumerations that are reported come from chains and tell their members. None of them is part of
another one, and every chain that is found is part of one that is reported or that one itself.
-/

namespace SpanSearch.Enumeration

/-- Whether an annotation tells of a chain: it goes from where the first member begins to where
the last ends, and has attributes for the identifiers in order and for their number. -/
structure Describes (a : Annotation) (chain : List Annotation) : Prop where
  start : chain.head?.map (·.start) = some a.start
  stop : chain.getLast?.map (·.stop) = some (a.start + a.size)
  members : a.attributes.get? "members" = some (" ".intercalate (chain.map (·.identifier)))
  size : a.attributes.get? "size" = some (toString chain.length)

/-- The chains that are reported: those found that are no part of others. -/
def reported (config : Config) (rounds : Nat) (tokens : List Token) (parts : Parts) :
    List (List Annotation) :=
  let closed := addNew [] (found config rounds tokens parts)
  closed.filter fun members => !closed.any fun others => isPart (keyOf members) (keyOf others)

variable {config : Config} {tokens : List Token} {parts : Parts} {chains : List (List Annotation)}
  {rounds : Nat} {members others : List Annotation} {starts separators elements : List Annotation}

theorem assemble_eq : assemble config rounds tokens parts
    = Annotation.sort ((reported config rounds tokens parts).map toAnnotation) :=
  rfl

theorem Linked.describes (linked : Linked starts separators elements members)
    (bounded : AllBounded starts separators elements) : Describes ( toAnnotation members) members := by
  obtain ⟨first, last, head, end_, start, -, stop, -⟩ := linked.span bounded
  refine ⟨?_, ?_, ?_, ?_⟩
  · rw [head]
    exact congrArg some start.symm
  · rw [end_]
    exact congrArg some stop.symm
  · simp [ toAnnotation, Annotation.set, keyOf]
  · simp [ toAnnotation, Annotation.set]

theorem mem_reported : members ∈ reported config rounds tokens parts
    ↔ members ∈ addNew [] (found config rounds tokens parts)
      ∧ ∀ others ∈ addNew [] (found config rounds tokens parts),
        isPart (keyOf members) (keyOf others) = false := by
  simp only [reported, List.mem_filter, Bool.not_eq_true', List.any_eq_false, Bool.not_eq_true]

theorem isChain_of_mem_reported (bounded : ∀ a ∈ parts.annotations, a.Bounded)
    (mem : members ∈ reported config rounds tokens parts) : IsChain parts members := by
  rcases mem_addNew (mem_reported.1 mem).1 with mem | mem
  · cases mem
  · exact isChain_found bounded members mem

theorem distinct_reported : Distinct (reported config rounds tokens parts) :=
  List.Pairwise.filter _ (Distinct.addNew .nil)

theorem isPart_reported (mem : members ∈ reported config rounds tokens parts)
    (mem' : others ∈ reported config rounds tokens parts) :
    isPart (keyOf members) (keyOf others) = false :=
  (mem_reported.1 mem).2 others (mem_reported.1 mem').1

/-- Each of some chains is within one that is no part of others. -/
theorem exists_longest (mem : members ∈ chains) :
    ∃ longest ∈ chains, keyOf members <:+: keyOf longest
      ∧ ∀ others ∈ chains, isPart (keyOf longest) (keyOf others) = false := by
  -- a chain of which this one is part is longer, and there is a longest chain
  induction room : chains.flatten.length - members.length using Nat.strongRecOn
    generalizing members with
  | ind room ih =>
    by_cases part : ∃ others ∈ chains, isPart (keyOf members) (keyOf others) = true
    · obtain ⟨others, mem', part⟩ := part
      obtain ⟨longer, within⟩ := isPart_iff.1 part
      rw [length_keyOf, length_keyOf] at longer
      have bound : others.length ≤ chains.flatten.length :=
        (List.sublist_flatten_of_mem mem').length_le
      obtain ⟨longest, mem, within', alone⟩ := ih _ (by omega) mem' rfl
      exact ⟨longest, mem, within.trans within', alone⟩
    · refine ⟨members, mem, List.infix_rfl, fun others mem' => ?_⟩
      exact Bool.eq_false_iff.2 fun here => part ⟨others, mem', here⟩

/-- What is found is part of what is reported, or is reported itself. -/
theorem exists_reported (mem : members ∈ found config rounds tokens parts) :
    ∃ longest ∈ reported config rounds tokens parts, keyOf members <:+: keyOf longest := by
  obtain ⟨same, mem, key⟩ : ∃ same ∈ addNew [] (found config rounds tokens parts),
      keyOf same = keyOf members := exists_addNew mem
  obtain ⟨longest, mem, within, alone⟩ := exists_longest mem
  exact ⟨longest, mem_reported.2 ⟨mem, alone⟩, key ▸ within⟩

/-- The enumerations come from different chains of which none is part of another one, and tell them.
They are in document order, and cover all chains that are found. -/
theorem assemble_describes_chains (config : Config) (rounds : Nat) (tokens : List Token)
    (parts : Parts) (bounded : ∀ a ∈ parts.annotations, a.Bounded) :
    let chains := reported config rounds tokens parts
    assemble config rounds tokens parts = Annotation.sort (chains.map toAnnotation)
      ∧ (∀ chain ∈ chains, IsChain parts chain ∧ Describes ( toAnnotation chain) chain)
      ∧ (chains.Pairwise fun x y => keyOf x ≠ keyOf y)
      ∧ (∀ x ∈ chains, ∀ y ∈ chains, keyOf x <:+: keyOf y → keyOf x = keyOf y)
      ∧ (∀ chain ∈ found config rounds tokens parts, ∃ longest ∈ chains,
          keyOf chain <:+: keyOf longest)
      ∧ (assemble config rounds tokens parts).Pairwise fun a b => a.precedes b = true := by
  intro chains
  refine ⟨assemble_eq, fun chain mem => ?_, distinct_reported, fun x mem y mem' within => ?_,
    fun chain mem => exists_reported mem, Annotation.pairwise_sort _⟩
  · have isChain := isChain_of_mem_reported bounded mem
    exact ⟨isChain, isChain.linked.describes (allBounded_closed bounded)⟩
  · refine within.eq_of_length (Nat.le_antisymm within.length_le (Nat.not_lt.1 fun longer => ?_))
    have part := isPart_reported mem mem'
    rw [isPart_iff.2 ⟨longer, within⟩] at part
    cases part

/-- Two members with a separator between them. -/
def pair : Parts where
  starts := [⟨some "m", "person", 0, 1, .empty⟩]
  elements := [⟨some "n", "person", 2, 1, .empty⟩]
  separators := [.ofSpan "comma" 1 1]
  ends := []
  endSeparators := []

theorem assemble_describes_pair :
    (∀ a ∈ pair.annotations, a.Bounded)
      ∧ assemble {} 1 [.ofText "a", .ofText ",", .ofText "b"] pair
          = Annotation.sort
            ((reported {} 1 [.ofText "a", .ofText ",", .ofText "b"] pair).map toAnnotation)
      ∧ ∀ chain ∈ reported {} 1 [.ofText "a", .ofText ",", .ofText "b"] pair,
        IsChain pair chain ∧ Describes ( toAnnotation chain) chain :=
  have bounded : ∀ a ∈ pair.annotations, a.Bounded := by decide
  have sound := assemble_describes_chains {} 1 [.ofText "a", .ofText ",", .ofText "b"] pair bounded
  ⟨bounded, sound.1, sound.2.1⟩

end SpanSearch.Enumeration
