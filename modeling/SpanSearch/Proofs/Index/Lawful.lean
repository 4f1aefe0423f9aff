import Mathlib.Data.List.Pairwise
import SpanSearch.Search.Indexed

/-! # The laws of lookups

Whatever a search looks annotations up in gives those that start at the offset asked for, at most one
of each size. Indexes keep to this because they never file two annotations of one span under a type,
and linked indexes because those of the parent are hidden that have the size of an own one.
-/

namespace SpanSearch

/-- Whether the span of an annotation ends without wrapping. -/
def Annotation.Bounded (a : Annotation) : Prop := a.start + a.size < Offset.limit

instance (a : Annotation) : Decidable a.Bounded := inferInstanceAs (Decidable (_ < _))

/-- Whether lookups give what starts where they look, without spans that wrap, and at most one
annotation of each size. -/
structure Search.Lookup.Lawful (lookup : Lookup) : Prop where
  starts : ∀ {type start a}, a ∈ lookup type start → a.start = start
  bounded : ∀ {type start a}, a ∈ lookup type start → a.Bounded
  sizes : ∀ type start, (lookup type start).Pairwise fun a b => a.size ≠ b.size

/-- Whether no annotation of a source wraps. -/
def Source.Bounded (source : Source) : Prop := ∀ {type a}, a ∈ source.ofType type → a.Bounded

theorem Source.bounded_none : none.Bounded := fun mem => nomatch mem

theorem Source.bounded_ofList {annotations : List Annotation}
    (bounded : ∀ a ∈ annotations, a.Bounded) : (ofList annotations).Bounded := fun mem =>
  bounded _ ((List.mem_filter.1 mem).1)

theorem Document.bounded_source {d : Document} (bounded : ∀ a ∈ d.annotations, a.Bounded) :
    d.source.Bounded := fun mem =>
  bounded _ ((List.mem_filter.1 (List.mem_mergeSort.1 mem)).1)

/-- Whether the annotation that an event is about does not wrap. -/
def Event.Bounded : Event → Prop
  | .tokens => True
  | .added a => a.Bounded
  | .removed a => a.Bounded
  | .retyped _ a => a.Bounded
  | .changed a => a.Bounded

theorem sameSpan_iff {a b : Annotation} :
    a.sameSpan b = true ↔ a.start = b.start ∧ a.size = b.size := by
  simp only [ Annotation.sameSpan, Bool.and_eq_true, beq_iff_eq]

namespace Index

/-- Whether no two annotations of one span are filed under one type, and none wraps. -/
structure Tidy (index : Index) : Prop where
  apart : index.entries.Pairwise fun x y => x.1 = y.1 → x.2.sameSpan y.2 = false
  bounded : ∀ entry ∈ index.entries, entry.2.Bounded

/-- Whether no two annotations of one span are filed under one type. -/
def Apart (index : Index) : Prop :=
  index.entries.Pairwise fun x y => x.1 = y.1 → x.2.sameSpan y.2 = false

variable {index : Index} {source : Source} {type : String} {a : Annotation}

theorem mem_filed {start : Nat} :
    a ∈ index.filed type start ↔ (type, a) ∈ index.entries ∧ a.start = start := by
  simp only [filed, List.mem_map, List.mem_filter, Bool.and_eq_true, beq_iff_eq, Prod.exists]
  constructor
  · rintro ⟨_, _, ⟨mem, rfl, rfl⟩, rfl⟩
    exact ⟨mem, rfl⟩
  · rintro ⟨mem, rfl⟩
    exact ⟨type, a, ⟨mem, rfl, rfl⟩, rfl⟩

theorem Apart.sizes (apart : index.Apart) (type : String) (start : Nat) :
    (index.filed type start).Pairwise fun a b => a.size ≠ b.size := by
  rw [filed, List.pairwise_map]
  refine (List.Pairwise.filter _ apart).imp_of_mem fun {x y} mem mem' apart same => ?_
  simp only [List.mem_filter, Bool.and_eq_true, beq_iff_eq] at mem mem'
  have differ := apart (mem.2.1.trans mem'.2.1.symm)
  rw [sameSpan_iff.2 ⟨mem.2.2.trans mem'.2.2.symm, same⟩] at differ
  cases differ

/-- What is filed in a tidy index is looked up lawfully. -/
theorem Tidy.lawful (tidy : index.Tidy) : Search.Lookup.Lawful index.filed where
  starts mem := (mem_filed.1 mem).2
  bounded mem := tidy.bounded _ (mem_filed.1 mem).1
  sizes := Apart.sizes tidy.apart

theorem tidy_empty : empty.Tidy := ⟨.nil, fun _ mem => nomatch mem⟩

theorem tidy_dispose : index.dispose.Tidy := ⟨.nil, fun _ mem => nomatch mem⟩

theorem tidy_clear : index.clear.Tidy := ⟨.nil, fun _ mem => nomatch mem⟩

theorem Apart.file (apart : index.Apart) : (index.file type a).Apart := by
  unfold Index.file
  split
  · exact apart
  · next free =>
    refine List.pairwise_append.2 ⟨apart, List.pairwise_singleton .., ?_⟩
    rintro ⟨type', b⟩ mem entry mem' rfl
    obtain rfl := List.mem_singleton.1 mem'
    by_contra same
    rw [Bool.not_eq_false, sameSpan_iff] at same
    refine free (List.any_eq_true.2 ⟨_, mem, ?_⟩)
    rw [Bool.and_eq_true, beq_self_eq_true, sameSpan_iff]
    exact ⟨rfl, same.1.symm, same.2.symm⟩

theorem Tidy.file (tidy : index.Tidy) (bounded : a.Bounded) : (index.file type a).Tidy := by
  refine ⟨Apart.file tidy.apart, fun entry mem => ?_⟩
  unfold Index.file at mem
  split at mem
  · exact tidy.bounded entry mem
  · rcases List.mem_append.1 mem with mem | mem
    · exact tidy.bounded entry mem
    · obtain rfl := List.mem_singleton.1 mem
      exact bounded

theorem Tidy.fileAll {annotations : List Annotation} (tidy : index.Tidy)
    (bounded : ∀ a ∈ annotations, a.Bounded) : (index.fileAll type annotations).Tidy := by
  induction annotations generalizing index with
  | nil => exact tidy
  | cons a annotations ih =>
    obtain ⟨here, later⟩ := List.forall_mem_cons.1 bounded
    exact ih (tidy.file here) later

theorem Tidy.draw (tidy : index.Tidy) (bounded : source.Bounded) :
    (index.draw source type).Tidy := by
  unfold Index.draw
  split
  · exact tidy
  · exact fileAll ⟨tidy.apart, tidy.bounded⟩ fun _ mem => bounded mem

theorem Tidy.drawAll {types : List String} (tidy : index.Tidy) (bounded : source.Bounded) :
    (index.drawAll source types).Tidy := by
  induction types generalizing index with
  | nil => exact tidy
  | cons type types ih => exact ih (tidy.draw bounded)

theorem Tidy.add (tidy : index.Tidy) (sourceBounded : source.Bounded) (bounded : a.Bounded) :
    (index.add source type a).2.Tidy := by
  unfold Index.add
  dsimp only
  split
  · exact tidy.draw sourceBounded
  · exact (tidy.draw sourceBounded).file bounded

theorem Tidy.addAll {annotations : List Annotation} (tidy : index.Tidy)
    (sourceBounded : source.Bounded) (bounded : ∀ a ∈ annotations, a.Bounded) :
    (index.addAll source annotations).Tidy := by
  induction annotations generalizing index with
  | nil => exact tidy
  | cons a annotations ih =>
    obtain ⟨here, later⟩ := List.forall_mem_cons.1 bounded
    exact ih (tidy.add sourceBounded here) later

theorem tidy_ofList {annotations : List Annotation} (bounded : ∀ a ∈ annotations, a.Bounded) :
    (ofList annotations).Tidy :=
  tidy_empty.addAll Source.bounded_none bounded

theorem Tidy.withdraw (tidy : index.Tidy) : (index.withdraw type a).2.Tidy :=
  ⟨tidy.apart.sublist List.eraseP_sublist, fun _ mem => tidy.bounded _ (List.mem_of_mem_eraseP mem)⟩

theorem Tidy.remove (tidy : index.Tidy) (bounded : source.Bounded) :
    (index.remove source type a).2.Tidy :=
  (tidy.draw bounded).withdraw

theorem Tidy.refill {start : Nat} (tidy : index.Tidy) (bounded : source.Bounded) :
    (index.refill source type start).Tidy :=
  tidy.fileAll fun _ mem => bounded ((List.mem_filter.1 mem).1)

theorem Tidy.withdrawAndRefill (tidy : index.Tidy) (bounded : source.Bounded) :
    (index.withdrawAndRefill source type a).Tidy := by
  have tidy : (index.withdraw type a).2.Tidy := tidy.withdraw
  unfold Index.withdrawAndRefill
  split
  · next eq =>
    rw [eq] at tidy
    exact tidy.refill bounded
  · next eq =>
    rw [eq] at tidy
    exact tidy

theorem Tidy.fileDrawn (tidy : index.Tidy) (bounded : a.Bounded) :
    (if index.drawn.contains a.type then index.file a.type a else index).Tidy := by
  split
  · exact tidy.file bounded
  · exact tidy

/-- An index stays tidy when it is brought up to date. -/
theorem Tidy.patch {event : Event} (tidy : index.Tidy) (sourceBounded : source.Bounded)
    (bounded : event.Bounded) : (index.patch source event).Tidy := by
  cases event with
  | tokens => exact tidy_clear
  | added a => exact tidy.fileDrawn bounded
  | removed a =>
    simp only [Index.patch]
    split
    · exact tidy.withdrawAndRefill sourceBounded
    · exact tidy
  | retyped oldType a =>
    refine fileDrawn ?_ bounded
    split
    · exact tidy.withdrawAndRefill sourceBounded
    · exact tidy
  | changed a =>
    simp only [Index.patch]
    split
    · exact tidy.withdraw.file bounded
    · exact tidy

end Index

namespace Forest

/-- Whether all indexes are tidy and no annotation of their sources wraps. -/
def Tidy (forest : Forest) : Prop :=
  ∀ node ∈ forest.nodes, node.index.Tidy ∧ node.source.Bounded

variable {forest : Forest} {i : Nat}

theorem mem_nodes_of_mem_chain {entry : Nat × Node} (mem : entry ∈ forest.chain i) :
    entry.2 ∈ forest.nodes := by
  induction i using chain.induct forest with
  | case1 i missing => simp [chain, missing] at mem
  | case2 i node found root =>
    rw [chain] at mem
    simp only [found, root, List.mem_singleton] at mem
    exact mem ▸ List.mem_of_getElem? found
  | case3 i node found parent linked below ih =>
    rw [chain] at mem
    simp only [found, linked, below, if_true, List.mem_cons] at mem
    rcases mem with rfl | mem
    · exact List.mem_of_getElem? found
    · exact ih mem
  | case4 i node found parent linked above =>
    rw [chain] at mem
    simp only [found, linked, above, if_false, List.mem_singleton] at mem
    exact mem ▸ List.mem_of_getElem? found

theorem lawful_annotationsIn {chain : List (Nat × Node)}
    (tidy : ∀ entry ∈ chain, entry.2.index.Tidy ∧ entry.2.source.Bounded) :
    Search.Lookup.Lawful fun type start => annotationsIn type start chain := by
  induction chain with
  | nil => exact ⟨fun mem => (nomatch mem), fun mem => (nomatch mem), fun _ _ => .nil⟩
  | cons entry ancestors ih =>
    obtain ⟨i, node⟩ := entry
    obtain ⟨⟨own, bounded⟩, others⟩ := List.forall_mem_cons.1 tidy
    have parent := ih others
    by_cases gone : node.index.disposed = true
    · simp only [annotationsIn, gone, if_true]
      exact ⟨fun mem => (nomatch mem), fun mem => (nomatch mem), fun _ _ => .nil⟩
    · have own (type) : Search.Lookup.Lawful (node.index.draw node.source type).filed :=
        (own.draw bounded).lawful
      simp only [annotationsIn, gone]
      refine ⟨fun {type start a} mem => ?_, fun {type start a} mem => ?_, fun type start => ?_⟩
      · rcases List.mem_append.1 mem with mem | mem
        · exact (own type).starts mem
        · exact parent.starts (List.mem_filter.1 mem).1
      · rcases List.mem_append.1 mem with mem | mem
        · exact (own type).bounded mem
        · exact parent.bounded (List.mem_filter.1 mem).1
      · refine List.pairwise_append.2 ⟨(own type).sizes type start,
          (parent.sizes type start).filter _, fun a mem b mem' same => ?_⟩
        simp only [List.mem_filter, Bool.not_eq_true', List.any_eq_false, beq_iff_eq] at mem'
        exact mem'.2 a mem same

/-- Linked indexes are looked up in lawfully. -/
theorem Tidy.lawful (tidy : forest.Tidy) : Search.Lookup.Lawful (forest.annotations i) :=
  lawful_annotationsIn fun _ mem => tidy _ (mem_nodes_of_mem_chain mem)

end Forest

end SpanSearch
