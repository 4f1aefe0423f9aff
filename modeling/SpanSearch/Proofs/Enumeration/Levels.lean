import Mathlib.Data.List.Perm.Subperm
import SpanSearch.Proofs.Enumeration.Growth

/-! # Levels of growth

Where parts can be told apart, each round makes all chains that are longer by one member of those that
came last, except of chains that have the span of an earlier one of their length. So the chains come
in the order of their lengths, and a chain is missed only if one of its beginnings is passed over.
-/

namespace SpanSearch.Enumeration

/-- Whether all parts have a token at least and lie within the tokens, while different ones have
different identifiers, and those in the same role different spans. -/
structure Parts.Orderly (parts : Parts) (tokens : List Token) : Prop where
  solid : ∀ a ∈ parts.annotations, 0 < a.size
  bounded : ∀ a ∈ parts.annotations, a.Bounded
  within : ∀ a ∈ parts.annotations, a.start + a.size ≤ tokens.length
  identified : ∀ a ∈ parts.annotations, ∀ b ∈ parts.annotations, a.identifier = b.identifier → a = b
  apart : ∀ list ∈ [parts.starts, parts.elements, parts.separators, parts.ends, parts.endSeparators],
    list.Pairwise fun a b => a.sameSpan b = false

/-- Whether a chain is the first of its span and length among chains. -/
def Leads (chains : List (List Annotation)) (members : List Annotation) : Prop :=
  chains.find? (fun others => others.length == members.length
    && (spanOf others).sameSpan (spanOf members)) = some members

variable {config : Config} {tokens : List Token} {parts : Parts}
  {chains others : List (List Annotation)} {rounds first n : Nat}
  {members front : List Annotation} {a e : Annotation}

/-! ## Parts that can be told apart -/

theorem foremost_iff {annotations : List Annotation}
    (apart : annotations.Pairwise fun a b => a.sameSpan b = false) :
    Foremost annotations a ↔ a ∈ annotations := by
  refine ⟨Foremost.mem, fun mem => ?_⟩
  induction apart with
  | nil => cases mem
  | @cons b rest differ _ ih =>
    rw [Foremost, List.find?_cons]
    rcases List.mem_cons.1 mem with rfl | mem
    · rw [sameSpan_self]
    · rw [differ a mem]
      exact ih mem

theorem mem_annotations_of_isChain (isChain : IsChain parts members) :
    ∀ a ∈ members, a ∈ parts.annotations := by
  have linked := isChain.linked
  clear isChain
  induction members using List.reverseRecOn with
  | nil => exact List.forall_mem_nil _
  | append_singleton front b ih =>
    rcases linked_snoc.1 linked with ⟨rfl, mem⟩ | ⟨a, -, linked, mem, -⟩
    · exact List.forall_mem_singleton.2 (by simp [Parts.annotations, mem])
    · refine List.forall_mem_append.2 ⟨ih linked, List.forall_mem_singleton.2 ?_⟩
      rcases List.mem_append.1 mem with mem | mem <;> simp [Parts.annotations, mem]

/-- Chains with the same key are the same. -/
theorem Parts.Orderly.eq_of_key (orderly : parts.Orderly tokens) (isChain : IsChain parts members)
    (isChain' : IsChain parts front) (key : keyOf members = keyOf front) : members = front := by
  have mem := mem_annotations_of_isChain isChain
  have mem' := mem_annotations_of_isChain isChain'
  clear isChain isChain'
  induction members generalizing front with
  | nil =>
    cases front with
    | nil => rfl
    | cons b front => cases key
  | cons a members ih =>
    cases front with
    | nil => cases key
    | cons b front =>
      obtain ⟨same, key⟩ := List.cons.inj key
      obtain ⟨mem_a, mem⟩ := List.forall_mem_cons.1 mem
      obtain ⟨mem_b, mem'⟩ := List.forall_mem_cons.1 mem'
      rw [orderly.identified a mem_a b mem_b same, ih key mem mem']

/-- A search finds all steps of an open chain. -/
theorem Parts.Orderly.continues {separators elements : List Annotation}
    {separator element : Annotation → Prop} (orderly : parts.Orderly tokens)
    (isOpen : IsOpen parts members) (end_ : members.getLast? = some a)
    (joins : Joins separators elements a e) (separators_of : ∀ s ∈ separators, separator s)
    (elements_of : ∀ e ∈ elements, element e) (sub : separators ⊆ parts.annotations)
    (sub' : elements ⊆ parts.annotations) : Continues separator element members e := by
  obtain ⟨mem, s, mem_s, after, before⟩ := joins
  obtain ⟨first, last, head, end', -, -, ends, -⟩ :=
    isOpen.span (allBounded_open orderly.bounded)
  obtain rfl : a = last := Option.some.inj (end_.symm.trans end')
  exact ⟨s, separators_of s mem_s, orderly.solid s (sub mem_s), after.trans ends.symm,
    elements_of e mem, orderly.solid e (sub' mem),
    before.trans (stop_eq (orderly.bounded s (sub mem_s)))⟩

theorem Parts.Orderly.solid_isOpen (orderly : parts.Orderly tokens) (isOpen : IsOpen parts members) :
    0 < (spanOf members).size ∧ (spanOf members).start < tokens.length := by
  have bounded := allBounded_open orderly.bounded
  obtain ⟨first, last, head, end_, mem, order, -⟩ := isOpen.ends bounded
  have listed : first ∈ parts.annotations := by simp [Parts.annotations, mem]
  have stop := stop_eq (bounded first (.inl mem))
  have size := orderly.solid first listed
  have within := orderly.within first listed
  rw [spanOf_eq head end_]
  exact ⟨show 0 < last.stop - first.start by omega, show first.start < tokens.length by omega⟩

/-- All open chains that are the first of their spans take part in a round. -/
theorem Parts.Orderly.ready (orderly : parts.Orderly tokens) (isOpen : IsOpen parts members)
    (visible : Visible (chains.drop first) members) : Ready tokens chains first members :=
  ⟨visible, (orderly.solid_isOpen isOpen).1, (orderly.solid_isOpen isOpen).2⟩

/-! ## Lengths of open chains -/

/-- An open chain has at most one member more than there are elements. -/
theorem Parts.Orderly.length_isOpen (orderly : parts.Orderly tokens) (isOpen : IsOpen parts members) :
    members.length ≤ parts.elements.length + 1 := by
  have bounded := allBounded_open orderly.bounded
  -- each member ends before the next one does, so that no member occurs twice
  have forward : members.IsChain fun a b => a.stop < b.stop :=
    isOpen.joined.imp fun a b joins => by
      have := joins.stop_le bounded
      have mem : b ∈ parts.annotations := by simp [Parts.annotations, joins.1]
      have := stop_eq (orderly.bounded b mem)
      have := orderly.solid b mem
      omega
  have nodup : members.Nodup :=
    (List.isChain_iff_pairwise.1 forward).imp fun less same => by
      rw [same] at less
      exact Nat.lt_irrefl _ less
  have := (List.Nodup.subperm nodup.tail isOpen.tail_subset).length_le
  rw [List.length_tail] at this
  omega

/-! ## Rounds -/

/-- What holds of chains after `n` rounds, where those from number `first` on came last. -/
structure Grown (parts : Parts) (chains : List (List Annotation)) (first n : Nat) : Prop where
  isOpen : ∀ members ∈ chains, IsOpen parts members
  old : ∀ members ∈ chains.take first, members.length ≤ n
  new : ∀ members ∈ chains.drop first, members.length = n + 1
  sorted : chains.Pairwise fun x y => x.length ≤ y.length
  origin : ∀ front e, front ++ [e] ∈ chains → front ≠ [] → Leads chains front
  closed : ∀ front a e, front.length ≤ n → Leads chains front → front.getLast? = some a →
    Joins parts.separators parts.elements a e → front ++ [e] ∈ chains

theorem Leads.mem (leads : Leads chains members) : members ∈ chains := List.mem_of_find?_eq_some leads

/-- A chain that is visible among all chains leads those of its length. -/
theorem Visible.leads (visible : Visible chains members) : Leads chains members := by
  obtain ⟨-, front, back, split, others⟩ := List.find?_eq_some_iff_append.1 visible
  refine List.find?_eq_some_iff_append.2 ⟨?_, front, back, split, fun x mem => ?_⟩
  · rw [beq_self_eq_true, sameSpan_self, Bool.and_self]
  · rw [Bool.not_and, others x mem, Bool.or_true]

/-- Longer chains that are added make no difference to which chain leads. -/
theorem leads_append (longer : ∀ others' ∈ others, members.length ≠ others'.length) :
    Leads (chains ++ others) members ↔ Leads chains members := by
  have none : others.find? (fun others => others.length == members.length
      && (spanOf others).sameSpan (spanOf members)) = none :=
    List.find?_eq_none.2 fun others' mem same => by
      rw [Bool.and_eq_true, beq_iff_eq] at same
      exact longer others' mem same.1.symm
  rw [Leads, List.find?_append, none, Option.or_none, Leads]

/-- Of the chains that came last, those that lead are visible. -/
theorem Grown.visible_iff (grown : Grown parts chains first n) (length : members.length = n + 1) :
    Visible (chains.drop first) members ↔ Leads chains members := by
  have shorter : (chains.take first).find? (fun others => others.length == members.length
      && (spanOf others).sameSpan (spanOf members)) = none :=
    List.find?_eq_none.2 fun others mem same => by
      rw [Bool.and_eq_true, beq_iff_eq] at same
      have := grown.old others mem
      omega
  have alike : (chains.drop first).find? (fun others => others.length == members.length
        && (spanOf others).sameSpan (spanOf members))
      = (chains.drop first).find? fun others => (spanOf others).sameSpan (spanOf members) := by
    rw [← List.head?_filter, ← List.head?_filter]
    refine congrArg List.head? (List.filter_congr fun others mem => ?_)
    rw [(grown.new others mem).trans length.symm, beq_self_eq_true, Bool.true_and]
  rw [Leads, ← List.take_append_drop first chains, List.find?_append, shorter, Option.none_or,
    List.take_append_drop, alike, Visible]

/-- Chains of one length are in the order of their lengths. -/
theorem pairwise_of_length (length : ∀ x ∈ chains, x.length = n) :
    chains.Pairwise fun x y => x.length ≤ y.length :=
  List.pairwise_iff_forall_sublist.2 fun {x y} sub => by
    rw [length x (sub.subset (by simp)), length y (sub.subset (by simp))]

theorem Grown.length_le (grown : Grown parts chains first n) (mem : members ∈ chains) :
    members.length ≤ n + 1 := by
  rw [← List.take_append_drop first chains, List.mem_append] at mem
  rcases mem with mem | mem
  · exact Nat.le_succ_of_le (grown.old members mem)
  · exact Nat.le_of_eq (grown.new members mem)

/-- A round makes just those chains that are longer by one step of those that came last and lead. -/
theorem Grown.mem_stepped (grown : Grown parts chains first n) (orderly : parts.Orderly tokens) :
    members ∈ stepped config tokens (partsIndex parts) stepPattern chains first
      ↔ ∃ front a e, front.length = n + 1 ∧ Leads chains front ∧ front.getLast? = some a
        ∧ Joins parts.separators parts.elements a e ∧ members = front ++ [e] := by
  have separators : parts.separators ⊆ parts.annotations := fun a mem => by
    simp [Parts.annotations, mem]
  have elements : parts.elements ⊆ parts.annotations := fun a mem => by
    simp [Parts.annotations, mem]
  rw [mem_stepped_step (tidy_round orderly.bounded grown.isOpen)]
  constructor
  · rintro ⟨front, e, ready, continues, rfl⟩
    have isOpen := grown.isOpen front ready.mem
    obtain ⟨-, a, -, end_, -, -, ends, -⟩ := isOpen.span (allBounded_open orderly.bounded)
    have length := grown.new front (List.mem_of_find?_eq_some ready.visible)
    exact ⟨front, a, e, length, (grown.visible_iff length).1 ready.visible, end_,
      continues.joins (fun _ => Foremost.mem) (fun _ => Foremost.mem)
        (fun s mem => orderly.bounded s (separators mem)) ends, rfl⟩
  · rintro ⟨front, a, e, length, leads, end_, joins, rfl⟩
    have isOpen := grown.isOpen front leads.mem
    exact ⟨front, e, orderly.ready isOpen ((grown.visible_iff length).2 leads),
      orderly.continues isOpen end_ joins
        (fun s => (foremost_iff (orderly.apart _ (by simp))).2)
        (fun e => (foremost_iff (orderly.apart _ (by simp))).2) separators elements, rfl⟩

section

variable {fresh : List (List Annotation)}

theorem Grown.isOpen_stepped (grown : Grown parts chains first n) (orderly : parts.Orderly tokens)
    (mem : members ∈ stepped config tokens (partsIndex parts) stepPattern chains first) :
    IsOpen parts members := by
  obtain ⟨front, a, e, -, leads, end_, joins, rfl⟩ := (grown.mem_stepped orderly).1 mem
  exact linked_snoc.2 (.inr ⟨a, end_, grown.isOpen front leads.mem, joins⟩)

theorem Grown.length_stepped (grown : Grown parts chains first n) (orderly : parts.Orderly tokens)
    (mem : members ∈ stepped config tokens (partsIndex parts) stepPattern chains first) :
    members.length = n + 2 := by
  obtain ⟨front, a, e, length, -, -, -, rfl⟩ := (grown.mem_stepped orderly).1 mem
  rw [List.length_append, length, List.length_singleton]

/-- Which of the chains lead is not changed by those of a later round. -/
theorem Grown.leads_iff (grown : Grown parts chains first n) (orderly : parts.Orderly tokens)
    (sub : fresh ⊆ stepped config tokens (partsIndex parts) stepPattern chains first)
    (short : members.length ≤ n + 1) : Leads (chains ++ fresh) members ↔ Leads chains members :=
  leads_append fun others mem => by
    have := grown.length_stepped orderly (sub mem)
    omega

/-- The steps of a chain that leads are there after the round in which it takes part. -/
theorem Grown.step_mem (grown : Grown parts chains first n) (orderly : parts.Orderly tokens)
    (short : front.length ≤ n + 1) (leads : Leads chains front) (end_ : front.getLast? = some a)
    (joins : Joins parts.separators parts.elements a e) :
    front ++ [e]
      ∈ addNew chains (stepped config tokens (partsIndex parts) stepPattern chains first) := by
  rcases Nat.lt_or_ge n front.length with last | old
  · have made : front ++ [e] ∈ stepped config tokens (partsIndex parts) stepPattern chains first :=
      (grown.mem_stepped orderly).2
        ⟨front, a, e, Nat.le_antisymm short last, leads, end_, joins, rfl⟩
    obtain ⟨same, mem, key⟩ : ∃ same ∈ addNew chains
        (stepped config tokens (partsIndex parts) stepPattern chains first),
        keyOf same = keyOf (front ++ [e]) := exists_addNew made
    have isOpen : IsOpen parts same :=
      (mem_addNew mem).elim (grown.isOpen same) (grown.isOpen_stepped orderly)
    have isOpen' := grown.isOpen_stepped orderly made
    exact orderly.eq_of_key (.ofOpen isOpen) (.ofOpen isOpen') key ▸ mem
  · exact subset_addNew (grown.closed front a e old leads end_ joins)

/-- What a round preserves. -/
theorem Grown.round (grown : Grown parts chains first n) (orderly : parts.Orderly tokens) :
    Grown parts (addNew chains (stepped config tokens (partsIndex parts) stepPattern chains first))
      chains.length (n + 1) := by
  have closed {front : List Annotation} {a e : Annotation} :=
    @Grown.step_mem config tokens parts chains first n front a e grown orderly
  obtain ⟨fresh, eq, sub⟩ :=
    @addNew_eq_append chains (stepped config tokens (partsIndex parts) stepPattern chains first)
  rw [eq] at closed ⊢
  have length {members : List Annotation} (mem : members ∈ fresh) : members.length = n + 2 :=
    grown.length_stepped orderly (sub mem)
  exact {
    isOpen := List.forall_mem_append.2
      ⟨grown.isOpen, fun members mem => grown.isOpen_stepped orderly (sub mem)⟩
    old := by
      rw [List.take_left]
      exact fun members mem => grown.length_le mem
    new := by
      rw [List.drop_left]
      exact fun members mem => length mem
    sorted := by
      refine List.pairwise_append.2 ⟨grown.sorted, pairwise_of_length fun x mem => length mem, ?_⟩
      intro x mem y mem'
      have := grown.length_le mem
      have := length mem'
      omega
    origin := by
      intro front e mem some
      rcases List.mem_append.1 mem with mem | mem
      · have := grown.length_le mem
        rw [List.length_append] at this
        exact (grown.leads_iff orderly sub (by omega)).2 (grown.origin front e mem some)
      · obtain ⟨front', a, e', short, leads, -, -, same⟩ := (grown.mem_stepped orderly).1 (sub mem)
        obtain ⟨rfl, -⟩ := List.append_inj' same rfl
        exact (grown.leads_iff orderly sub (Nat.le_of_eq short)).2 leads
    closed := fun front a e short leads end_ joins =>
      closed short ((grown.leads_iff orderly sub short).1 leads) end_ joins }

end

/-- What several rounds preserve. They end early only when no chain is new. -/
theorem Grown.grow (grown : Grown parts chains first n) (orderly : parts.Orderly tokens) :
    ∃ first' n', Grown parts (grow config tokens (partsIndex parts) rounds chains first) first' n'
      ∧ (n' = n + rounds
        ∨ (grow config tokens (partsIndex parts) rounds chains first).drop first' = []) := by
  induction rounds generalizing chains first n with
  | zero => exact ⟨first, n, grown, .inl rfl⟩
  | succ rounds ih =>
    rw [Enumeration.grow]
    split
    · next done => exact ⟨first, n, grown, .inr (List.drop_eq_nil_of_le done)⟩
    · obtain ⟨first', n', grown', ended⟩ := ih (grown.round orderly)
      exact ⟨first', n', grown', ended.imp_left fun rounds => by omega⟩

theorem grown_seeds : Grown parts (seeds parts) 0 0 := by
  have single (members : List Annotation) (mem : members ∈ seeds parts) : members.length = 1 := by
    rcases mem_addNew mem with mem | mem
    · cases mem
    · obtain ⟨m, -, rfl⟩ := List.mem_map.1 mem
      rfl
  exact {
    isOpen := isOpen_seeds
    old := List.forall_mem_nil _
    new := single
    sorted := pairwise_of_length single
    origin := by
      intro front e mem some
      have := single _ mem
      rw [List.length_append, List.length_singleton] at this
      exact absurd (List.length_eq_zero_iff.1 (by omega)) some
    closed := by
      intro front a e none leads
      have := single front leads.mem
      omega }

/-- What holds of chains that cannot be grown any more. -/
structure Saturated (parts : Parts) (chains : List (List Annotation)) : Prop where
  isOpen : ∀ members ∈ chains, IsOpen parts members
  sorted : chains.Pairwise fun x y => x.length ≤ y.length
  origin : ∀ front e, front ++ [e] ∈ chains → front ≠ [] → Leads chains front
  closed : ∀ front a e, Leads chains front → front.getLast? = some a →
    Joins parts.separators parts.elements a e → front ++ [e] ∈ chains

/-- As many rounds as there are elements are enough. -/
theorem saturated_candidates (orderly : parts.Orderly tokens)
    (enough : parts.elements.length ≤ rounds) :
    Saturated parts (candidates config rounds tokens parts) := by
  obtain ⟨first, n, grown, ended⟩ :
      ∃ first n, Grown parts (candidates config rounds tokens parts) first n
        ∧ (n = 0 + rounds ∨ (candidates config rounds tokens parts).drop first = []) :=
    grown_seeds.grow orderly
  refine ⟨grown.isOpen, grown.sorted, grown.origin, fun front a e leads end_ joins => ?_⟩
  refine grown.closed front a e ?_ leads end_ joins
  rcases ended with rounds | none
  · have isOpen : IsOpen parts (front ++ [e]) :=
      linked_snoc.2 (.inr ⟨a, end_, grown.isOpen front leads.mem, joins⟩)
    have := orderly.length_isOpen isOpen
    rw [List.length_append, List.length_singleton] at this
    omega
  · have mem := leads.mem
    rw [← List.take_append_drop first (candidates config rounds tokens parts), none,
      List.append_nil] at mem
    exact grown.old front mem

end SpanSearch.Enumeration
