import SpanSearch.Enumeration
import SpanSearch.Proofs.Search.Find

/-! # What matches read

The annotations that elements in a row may read from one offset to another. Tags read annotations
of their types one after the other, choices of tags those of any of the types, and what may be left
out reads nothing or what it consists of.
-/

namespace SpanSearch.Search

open Enumeration (tagOf)

/-- The annotations at the leaves of blocks. -/
def annotationsOf (blocks : List (List Derivation)) : List Annotation :=
  (Occurrence.leavesList (Derivation.treesOfBlocks blocks)).filterMap id

/-- Whether elements in a row may match the tokens from `start` to `stop` with these annotations. -/
def Reads (scene : Scene) (es : List Element) (start stop : Nat) (read : List Annotation) : Prop :=
  ∃ blocks, DerivesRow scene es start stop blocks ∧ annotationsOf blocks = read

section

variable {scene : Scene} {es : List Element} {start stop : Nat} {read : List Annotation}
  {type type' : String}

theorem leavesList_append (first rest : List Occurrence) :
    Occurrence.leavesList (first ++ rest)
      = Occurrence.leavesList first ++ Occurrence.leavesList rest := by
  induction first with
  | nil => rfl
  | cons o first ih => simp only [List.cons_append, Occurrence.leavesList, ih, List.append_assoc]

theorem annotationsOf_cons (block : List Derivation) (blocks : List (List Derivation)) :
    annotationsOf (block :: blocks)
      = (Occurrence.leavesList (Derivation.trees block)).filterMap id ++ annotationsOf blocks := by
  rw [annotationsOf, Derivation.treesOfBlocks, leavesList_append, List.filterMap_append, annotationsOf]

theorem reads_nil : Reads scene [] start stop read ↔ start = stop ∧ read = [] := by
  constructor
  · rintro ⟨_, ⟨rfl, rfl⟩, rfl⟩
    exact ⟨rfl, rfl⟩
  · rintro ⟨rfl, rfl⟩
    exact ⟨[], ⟨rfl, rfl⟩, rfl⟩

theorem reads_cons {e : Element} :
    Reads scene (e :: es) start stop read
      ↔ ∃ mid block rest, IsBlock (Derives scene e) e.bounds start mid block
        ∧ Reads scene es mid stop rest
        ∧ read = (Occurrence.leavesList (Derivation.trees block)).filterMap id ++ rest := by
  constructor
  · rintro ⟨_, ⟨mid, block, blocks, here, later, rfl⟩, rfl⟩
    exact ⟨mid, block, _, here, ⟨blocks, later, rfl⟩, annotationsOf_cons ..⟩
  · rintro ⟨mid, block, _, here, ⟨blocks, later, rfl⟩, rfl⟩
    exact ⟨_, ⟨mid, block, blocks, here, later, rfl⟩, annotationsOf_cons ..⟩

/-- What occurs once makes up a block of one derivation. -/
theorem isBlock_once {derives : Nat → Nat → Derivation → Prop} {block : List Derivation} :
    IsBlock derives .once start stop block ↔ ∃ d, block = [d] ∧ derives start stop d := by
  constructor
  · rintro ⟨chained, enough, within, -⟩
    obtain ⟨d, rfl⟩ := List.length_eq_one_iff.1 (Nat.le_antisymm within enough)
    obtain ⟨mid, here, rfl⟩ := chained
    exact ⟨d, rfl, here⟩
  · rintro ⟨d, rfl, here⟩
    refine ⟨⟨stop, here, rfl⟩, Nat.le_refl 1, Nat.le_refl 1, fun i d at_i _ => ?_⟩
    exact (List.getElem?_eq_some_iff.1 at_i).1

/-- What may be left out makes up a block of no derivation, or of one that is not empty. -/
theorem isBlock_option {e : Element} {block : List Derivation} :
    IsBlock (Derives scene e) ⟨0, 1⟩ start stop block
      ↔ (block = [] ∧ start = stop)
        ∨ ∃ d, block = [d] ∧ start ≠ stop ∧ Derives scene e start stop d := by
  constructor
  · rintro ⟨chained, -, within, lean⟩
    match block, within with
    | [], _ => exact .inl ⟨rfl, chained⟩
    | [d], _ =>
      obtain ⟨mid, here, rfl⟩ := chained
      refine .inr ⟨d, rfl, fun empty => ?_, here⟩
      obtain ⟨at_start, at_stop⟩ := here.span
      exact absurd (lean 0 d rfl (by omega)) (Nat.lt_irrefl 0)
  · rintro (⟨rfl, rfl⟩ | ⟨d, rfl, moved, here⟩)
    · exact ⟨rfl, Nat.le_refl 0, Nat.zero_le 1, fun i d at_i => by simp at at_i⟩
    · refine ⟨⟨stop, here, rfl⟩, Nat.zero_le 1, Nat.le_refl 1, fun i d' at_i empty => ?_⟩
      obtain ⟨-, rfl⟩ : i = 0 ∧ d = d' := by
        cases i with
        | zero => exact ⟨rfl, by simpa using at_i⟩
        | succ i => simp at at_i
      obtain ⟨at_start, at_stop⟩ := here.span
      omega

theorem derives_tagOf {d : Derivation} :
    Derives scene (tagOf type) start stop d
      ↔ ∃ a ∈ scene.annotations type start, 0 < a.size ∧ stop = a.start + a.size
        ∧ d = .leaf (tagOf type) start stop (some a) := by
  simp only [tagOf, Derives, Scene.Covers, Scene.accepts, List.all_nil, Option.all_none,
    Bool.and_self, true_and]
  constructor
  · rintro ⟨_, ⟨a, mem, size, rfl, rfl⟩, rfl⟩
    exact ⟨a, mem, size, rfl, rfl⟩
  · rintro ⟨a, mem, size, rfl, rfl⟩
    exact ⟨_, ⟨a, mem, size, rfl, rfl⟩, rfl⟩

theorem reads_tagOf :
    Reads scene (tagOf type :: es) start stop read
      ↔ ∃ a ∈ scene.annotations type start, 0 < a.size
        ∧ ∃ rest, Reads scene es (a.start + a.size) stop rest ∧ read = a :: rest := by
  simp only [reads_cons, show (tagOf type).bounds = .once from rfl, isBlock_once,
    derives_tagOf]
  constructor
  · rintro ⟨_, _, rest, ⟨_, rfl, a, mem, size, rfl, rfl⟩, later, rfl⟩
    exact ⟨a, mem, size, rest, later, rfl⟩
  · rintro ⟨a, mem, size, rest, later, rfl⟩
    exact ⟨_, _, rest, ⟨_, rfl, a, mem, size, rfl, rfl⟩, later, rfl⟩

theorem reads_eitherTag :
    Reads scene (.choice [tagOf type, tagOf type'] .plain :: es) start stop read
      ↔ ∃ a, (a ∈ scene.annotations type start ∨ a ∈ scene.annotations type' start) ∧ 0 < a.size
        ∧ ∃ rest, Reads scene es (a.start + a.size) stop rest ∧ read = a :: rest := by
  simp only [reads_cons, show (Element.choice [tagOf type, tagOf type'] .plain).bounds = .once
    from rfl, isBlock_once, Derives]
  constructor
  · rintro ⟨mid, _, rest, ⟨_, rfl, branch, block, taken, rfl⟩, later, rfl⟩
    match branch, taken with
    | 0, taken =>
      obtain ⟨_, rfl, derives⟩ := isBlock_once.1 taken
      obtain ⟨a, mem, size, rfl, rfl⟩ := derives_tagOf.1 derives
      exact ⟨a, .inl mem, size, rest, later, rfl⟩
    | 1, taken =>
      obtain ⟨_, rfl, derives⟩ := isBlock_once.1 taken
      obtain ⟨a, mem, size, rfl, rfl⟩ := derives_tagOf.1 derives
      exact ⟨a, .inr mem, size, rest, later, rfl⟩
  · rintro ⟨a, mem | mem, size, rest, later, rfl⟩
    · exact ⟨_, _, rest, ⟨_, rfl, 0, _,
        isBlock_once.2 ⟨_, rfl, derives_tagOf.2 ⟨a, mem, size, rfl, rfl⟩⟩, rfl⟩, later, rfl⟩
    · exact ⟨_, _, rest, ⟨_, rfl, 1, _,
        isBlock_once.2 ⟨_, rfl, derives_tagOf.2 ⟨a, mem, size, rfl, rfl⟩⟩, rfl⟩, later, rfl⟩

theorem reads_option {children : List Element} :
    Reads scene (.sequence children ⟨⟨0, 1⟩, []⟩ :: es) start stop read
      ↔ Reads scene es start stop read
        ∨ ∃ mid first rest, start ≠ mid ∧ Reads scene children start mid first
          ∧ Reads scene es mid stop rest ∧ read = first ++ rest := by
  have leaves (e : Element) (mid : Nat) (blocks : List (List Derivation)) :
      (Occurrence.leavesList (Derivation.trees [.all e start mid blocks])).filterMap id
        = annotationsOf blocks := by
    simp only [Derivation.trees, Derivation.tree, Occurrence.leavesList, Occurrence.leaves,
      List.append_nil, annotationsOf]
  simp only [reads_cons, show (Element.sequence children ⟨⟨0, 1⟩, []⟩).bounds = ⟨0, 1⟩ from rfl,
    isBlock_option]
  constructor
  · rintro ⟨mid, _, rest, ⟨rfl, rfl⟩ | ⟨_, rfl, moved, blocks, row, rfl⟩, later, rfl⟩
    · exact .inl later
    · exact .inr ⟨mid, _, rest, moved, ⟨blocks, row, rfl⟩, later, by rw [leaves]⟩
  · rintro (later | ⟨mid, _, rest, moved, ⟨blocks, row, rfl⟩, later, rfl⟩)
    · exact ⟨start, [], read, .inl ⟨rfl, rfl⟩, later, rfl⟩
    · exact ⟨mid, _, rest, .inr ⟨_, rfl, moved, blocks, row, rfl⟩, later, by rw [leaves]⟩

/-- The matches that are found read what the elements may read from their offsets on. -/
theorem exists_mem_find {config : Config} {tokens : List Token} {lookup : Lookup} {p : Pattern}
    (lawful : lookup.Lawful) (solid : SolidAll p.elements) :
    (∃ m ∈ find config tokens lookup (fun _ => false) p, m.annotations = read)
      ↔ ∃ start < tokens.length, ∃ stop ≠ start,
        Reads (.forPattern config tokens lookup p) p.elements start stop read := by
  have located : (Scene.forPattern config tokens lookup p).Located :=
    Scene.located_forPattern lawful
  simp only [mem_find, matchesAt_eq, List.mem_map, List.mem_filter, Prod.exists,
    decide_eq_true_eq, mem_rowsAt located p.elements solid]
  constructor
  · rintro ⟨_, ⟨start, within, blocks, stop, ⟨row, moved⟩, rfl⟩, rfl⟩
    exact ⟨start, within, stop, moved, blocks, row, rfl⟩
  · rintro ⟨start, within, stop, moved, blocks, row, rfl⟩
    exact ⟨_, ⟨start, within, blocks, stop, ⟨row, moved⟩, rfl⟩, rfl⟩

end

end SpanSearch.Search
