import Mathlib.Data.List.Chain
import Mathlib.Data.List.Infix
import SpanSearch.Enumeration
import SpanSearch.Proofs.Index.Lawful

/-! # Chains

A chain starts with a start element. Each next member is an element that begins where a separator
ends which begins where the member before ends. The last step may take an end separator or an end
element instead. The ends of the members never decrease, so that a chain covers the tokens from its
first to its last member.
-/

namespace SpanSearch.Enumeration

/-- Whether a separator leads from one member to the next one, which is an element. -/
def Joins (separators elements : List Annotation) (a b : Annotation) : Prop :=
  b ∈ elements ∧ ∃ s ∈ separators, s.start = a.stop ∧ b.start = s.stop

instance (separators elements : List Annotation) (a b : Annotation) :
    Decidable (Joins separators elements a b) :=
  inferInstanceAs (Decidable (_ ∧ _))

/-- Whether members begin with a start element and go on with elements after separators. -/
structure Linked (starts separators elements : List Annotation) (members : List Annotation) :
    Prop where
  starts : ∃ m ∈ starts, members.head? = some m
  joined : members.IsChain (Joins separators elements)

/-- Whether members are a chain that has not taken its last step. -/
abbrev IsOpen (parts : Parts) : List Annotation → Prop :=
  Linked parts.starts parts.separators parts.elements

/-- Whether members are a chain. -/
inductive IsChain (parts : Parts) : List Annotation → Prop
  | ofOpen {members} : IsOpen parts members → IsChain parts members
  | closed {front a b} : IsOpen parts (front ++ [a]) →
      Joins (parts.separators ++ parts.endSeparators) (parts.elements ++ parts.ends) a b →
      IsChain parts (front ++ [a, b])

/-- All annotations that enumerations are made of. -/
def Parts.annotations (parts : Parts) : List Annotation :=
  parts.starts ++ parts.elements ++ parts.separators ++ parts.ends ++ parts.endSeparators

section

variable {starts separators elements separators' elements' : List Annotation}
  {members front back : List Annotation} {a b m : Annotation} {parts : Parts}

/-! ## Steps -/

theorem Joins.mono (joins : Joins separators elements a b) (more : separators ⊆ separators')
    (more' : elements ⊆ elements') : Joins separators' elements' a b := by
  obtain ⟨mem, s, mem_s, after, before⟩ := joins
  exact ⟨more' mem, s, more mem_s, after, before⟩

theorem linked_singleton : Linked starts separators elements [m] ↔ m ∈ starts := by
  constructor
  · rintro ⟨⟨m', mem, head⟩, -⟩
    obtain rfl : m = m' := by simpa using head
    exact mem
  · exact fun mem => ⟨⟨m, mem, rfl⟩, .singleton m⟩

theorem Linked.ne_nil (linked : Linked starts separators elements members) : members ≠ [] := by
  rintro rfl
  obtain ⟨m, -, head⟩ := linked.starts
  cases head

theorem Linked.mono (linked : Linked starts separators elements members)
    (more : separators ⊆ separators') (more' : elements ⊆ elements') :
    Linked starts separators' elements' members :=
  ⟨linked.starts, linked.joined.imp fun _ _ joins => joins.mono more more'⟩

theorem linked_append (some : front ≠ []) :
    Linked starts separators elements (front ++ back)
      ↔ Linked starts separators elements front ∧ back.IsChain (Joins separators elements)
        ∧ ∀ x ∈ front.getLast?, ∀ y ∈ back.head?, Joins separators elements x y := by
  constructor
  · rintro ⟨⟨m, mem, head⟩, joined⟩
    obtain ⟨joined, joined', between⟩ := List.isChain_append.1 joined
    rw [List.head?_append_of_ne_nil _ some] at head
    exact ⟨⟨⟨m, mem, head⟩, joined⟩, joined', between⟩
  · rintro ⟨⟨⟨m, mem, head⟩, joined⟩, joined', between⟩
    refine ⟨⟨m, mem, ?_⟩, List.isChain_append.2 ⟨joined, joined', between⟩⟩
    rw [List.head?_append_of_ne_nil _ some, head]

/-- A chain has one member, which is a start element, or takes a step from the member before the
last. -/
theorem linked_snoc :
    Linked starts separators elements (front ++ [b])
      ↔ (front = [] ∧ b ∈ starts)
        ∨ ∃ a, front.getLast? = some a ∧ Linked starts separators elements front
          ∧ Joins separators elements a b := by
  by_cases none : front = []
  · subst none
    simp [linked_singleton]
  · obtain ⟨a, last⟩ := Option.ne_none_iff_exists'.1 (mt List.getLast?_eq_none_iff.1 none)
    simp [linked_append none, none, last]

theorem Linked.tail_subset (linked : Linked starts separators elements members) :
    members.tail ⊆ elements := by
  induction members using List.reverseRecOn with
  | nil => exact List.nil_subset _
  | append_singleton front b ih =>
    rcases linked_snoc.1 linked with ⟨rfl, -⟩ | ⟨a, -, linked, mem, -⟩
    · exact List.nil_subset _
    · rw [List.tail_append_of_ne_nil linked.ne_nil]
      exact List.append_subset.2 ⟨ih linked, List.cons_subset.2 ⟨mem, List.nil_subset _⟩⟩

/-- The chains whose last step is like all others are those with end separators and end elements among
the separators and elements. -/
theorem IsChain.linked (chain : IsChain parts members) :
    Linked parts.starts (parts.separators ++ parts.endSeparators) (parts.elements ++ parts.ends)
      members := by
  cases chain with
  | ofOpen linked => exact linked.mono (List.subset_append_left ..) (List.subset_append_left ..)
  | @closed front a b linked joins =>
    have linked := linked.mono (List.subset_append_left _ parts.endSeparators)
      (List.subset_append_left _ parts.ends)
    have split : front ++ [a, b] = (front ++ [a]) ++ [b] := by simp
    rw [split, linked_snoc]
    exact .inr ⟨a, by simp, linked, joins⟩

/-! ## Ends -/

/-- Whether no annotation of several lists wraps. -/
def AllBounded (starts separators elements : List Annotation) : Prop :=
  ∀ a, a ∈ starts ∨ a ∈ separators ∨ a ∈ elements → a.Bounded

theorem stop_eq (bounded : a.Bounded) : a.stop = a.start + a.size := Offset.add_eq bounded

/-- The next member does not begin before the one before it ends. -/
theorem Joins.stop_le (joins : Joins separators elements a b)
    (bounded : AllBounded starts separators elements) : a.stop ≤ b.start := by
  obtain ⟨-, s, mem, after, before⟩ := joins
  have := stop_eq (bounded s (.inr (.inl mem)))
  omega

/-- The first member of a chain ends at no greater offset than the last one. -/
theorem Linked.ends (linked : Linked starts separators elements members)
    (bounded : AllBounded starts separators elements) :
    ∃ first last, members.head? = some first ∧ members.getLast? = some last
      ∧ first ∈ starts ∧ first.stop ≤ last.stop ∧ last.Bounded := by
  induction members using List.reverseRecOn with
  | nil => exact absurd rfl linked.ne_nil
  | append_singleton front b ih =>
    rcases linked_snoc.1 linked with ⟨rfl, mem⟩ | ⟨a, last, linked, joins⟩
    · exact ⟨b, b, rfl, rfl, mem, Nat.le_refl _, bounded b (.inl mem)⟩
    · obtain ⟨first, a', head, last', start, stop, -⟩ := ih linked
      obtain rfl : a = a' := Option.some.inj (last.symm.trans last')
      have bounded_b := bounded b (.inr (.inr joins.1))
      have := stop_eq bounded_b
      have := joins.stop_le bounded
      exact ⟨first, b, by rw [List.head?_append_of_ne_nil _ linked.ne_nil, head], by simp, start,
        by omega, bounded_b⟩

/-! ## Spans -/

theorem spanOf_eq {first last : Annotation} (head : members.head? = some first)
    (end_ : members.getLast? = some last) :
    spanOf members = .ofSpan chainType first.start (last.stop - first.start) := by
  simp only [spanOf, head, end_, Option.map_some, Option.getD_some]

theorem spanOf_singleton : spanOf [m] = .ofSpan chainType m.start (m.stop - m.start) :=
  @spanOf_eq [m] m m rfl rfl

/-- The span of a chain that is longer by one member begins where the chain begins. -/
theorem spanOf_append (some : front ≠ []) : spanOf (front ++ [b])
    = .ofSpan chainType (spanOf front).start (b.stop - (spanOf front).start) := by
  obtain ⟨first, head⟩ := Option.ne_none_iff_exists'.1 (mt List.head?_eq_none_iff.1 some)
  obtain ⟨last, end_⟩ := Option.ne_none_iff_exists'.1 (mt List.getLast?_eq_none_iff.1 some)
  have head' : (front ++ [b]).head? = Option.some first := by
    rw [List.head?_append_of_ne_nil _ some, head]
  rw [spanOf_eq head' List.getLast?_concat, spanOf_eq head end_]
  rfl

/-- A chain has the span from the start of its first to the end of its last member. -/
theorem Linked.span (linked : Linked starts separators elements members)
    (bounded : AllBounded starts separators elements) :
    ∃ first last, members.head? = some first ∧ members.getLast? = some last
      ∧ (spanOf members).start = first.start ∧ (spanOf members).stop = last.stop
      ∧ (spanOf members).start + (spanOf members).size = last.stop
      ∧ (spanOf members).Bounded := by
  obtain ⟨first, last, head, end_, mem, order, bounded_last⟩ := linked.ends bounded
  have start := stop_eq (bounded first (.inl mem))
  have stop := stop_eq bounded_last
  have size : first.start + (last.stop - first.start) = last.stop := by omega
  unfold Annotation.Bounded at bounded_last
  refine ⟨first, last, head, end_, ?_⟩
  rw [spanOf_eq head end_]
  have bounded' : ( Annotation.ofSpan chainType first.start (last.stop - first.start)).Bounded := by
    show first.start + (last.stop - first.start) < Offset.limit
    omega
  exact ⟨rfl, (stop_eq bounded').trans size, size, bounded'⟩

/-! ## Parts of chains -/

theorem isWithin_iff {inner outer : Key} : isWithin inner outer = true ↔ inner <:+: outer := by
  induction outer with
  | nil => simp [isWithin]
  | cons x rest ih =>
    rw [isWithin, Bool.or_eq_true, List.isPrefixOf_iff_prefix, ih, List.infix_cons_iff]

theorem isPart_iff {inner outer : Key} :
    isPart inner outer = true ↔ inner.length < outer.length ∧ inner <:+: outer := by
  rw [isPart, Bool.and_eq_true, isWithin_iff, decide_eq_true_eq]

theorem length_keyOf (members : List Annotation) : (keyOf members).length = members.length :=
  List.length_map ..

end

end SpanSearch.Enumeration
