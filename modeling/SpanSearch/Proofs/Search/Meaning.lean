import Mathlib.Logic.Relation
import SpanSearch.Proofs.Search.Exactness

/-! # The spans of patterns

The meaning of an element is a relation between offsets, put together from the meanings of its parts:
elements in a row compose, branches are united, and an element that may occur several times composes
with itself. Nothing in it forbids empty occurrences. The derivations, in which most empty
occurrences are forbidden, have just these spans, since superfluous ones can be left out.
-/

namespace SpanSearch.Search

/-- The composition of a relation with itself that has so many factors. -/
def Power (relation : Nat → Nat → Prop) : Nat → Nat → Nat → Prop
  | 0 => Eq
  | count + 1 => Relation.Comp relation (Power relation count)

/-- The union of those powers of a relation whose numbers of factors lie within bounds. -/
def Repeated (relation : Nat → Nat → Prop) (bounds : Bounds) (start stop : Nat) : Prop :=
  ∃ count, bounds.min ≤ count ∧ count ≤ bounds.max ∧ Power relation count start stop

mutual

/-- Whether an element may occur once over the tokens from `start` to `stop`. -/
def Spans (scene : Scene) : Element → Nat → Nat → Prop
  | .atom a _ => fun start stop => ∃ matched, scene.Covers a start stop matched
  | .sequence children _ => RowSpans scene children
  | .choice branches _ => BranchSpans scene branches

/-- Whether elements in a row, each as often as it may occur, make up the tokens from `start` to
`stop`. -/
def RowSpans (scene : Scene) : List Element → Nat → Nat → Prop
  | [] => Eq
  | e :: es => Relation.Comp (Repeated (Spans scene e) e.bounds) (RowSpans scene es)

/-- Whether one of several branches makes up the tokens from `start` to `stop`. -/
def BranchSpans (scene : Scene) : List Element → Nat → Nat → Prop
  | [] => fun _ _ => False
  | b :: bs => fun start stop =>
    Repeated (Spans scene b) b.bounds start stop ∨ BranchSpans scene bs start stop

end

theorem chained_append {derives : Nat → Nat → Derivation → Prop} {start stop : Nat}
    {before after : List Derivation} :
    Chained derives start stop (before ++ after)
      ↔ ∃ mid, Chained derives start mid before ∧ Chained derives mid stop after := by
  induction before generalizing start with
  | nil => simp [Chained]
  | cons d before ih =>
    simp only [List.cons_append, Chained, ih]
    constructor
    · rintro ⟨mid, first, mid', rest, after⟩
      exact ⟨mid', ⟨mid, first, rest⟩, after⟩
    · rintro ⟨mid', ⟨mid, first, rest⟩, after⟩
      exact ⟨mid, first, mid', rest, after⟩

/-- Powers are chains of derivations. -/
theorem power_iff_chained {derives : Nat → Nat → Derivation → Prop} {count start stop : Nat} :
    Power (fun start stop => ∃ d, derives start stop d) count start stop
      ↔ ∃ block, block.length = count ∧ Chained derives start stop block := by
  induction count generalizing start with
  | zero => simp [Power, Chained]
  | succ count ih =>
    simp only [Power, Relation.Comp, ih]
    constructor
    · rintro ⟨mid, ⟨d, first⟩, block, rfl, rest⟩
      exact ⟨d :: block, rfl, mid, first, rest⟩
    · rintro ⟨_ | ⟨d, block⟩, length, chained⟩
      · cases length
      · obtain ⟨mid, first, rest⟩ := chained
        exact ⟨mid, ⟨d, first⟩, block, Nat.succ.inj length, rest⟩

/-- An empty occurrence can be left out of a chain. -/
theorem Chained.drop {scene : Scene} {e : Element} {start stop : Nat} {before after : List Derivation}
    {d : Derivation} (h : Chained (Derives scene e) start stop (before ++ d :: after))
    (empty : d.start = d.stop) : Chained (Derives scene e) start stop (before ++ after) := by
  obtain ⟨mid, first, mid', derives, rest⟩ := chained_append.1 h
  obtain ⟨at_start, at_stop⟩ := derives.span
  obtain rfl : mid = mid' := by omega
  exact chained_append.2 ⟨mid, first, rest⟩

/-- Whatever a chain within bounds covers, one without superfluous empty occurrences covers: as long
as there are more occurrences than the minimum asks for, an empty one can be left out. -/
theorem Chained.exists_isBlock {scene : Scene} {e : Element} {bounds : Bounds} {start stop : Nat}
    {block : List Derivation} (h : Chained (Derives scene e) start stop block)
    (enough : bounds.min ≤ block.length) (within : block.length ≤ bounds.max) :
    ∃ block, IsBlock (Derives scene e) bounds start stop block := by
  induction surplus : block.length - bounds.min generalizing block with
  | zero =>
    refine ⟨block, h, enough, within, fun i d at_i _ => ?_⟩
    have := (List.getElem?_eq_some_iff.1 at_i).1
    omega
  | succ surplus ih =>
    by_cases some_empty : ∃ d ∈ block, d.start = d.stop
    · obtain ⟨d, mem, empty⟩ := some_empty
      obtain ⟨before, after, rfl⟩ := List.append_of_mem mem
      simp only [List.length_append, List.length_cons] at enough within surplus
      exact ih (h.drop empty) (by simp only [List.length_append]; omega)
        (by simp only [List.length_append]; omega) (by simp only [List.length_append]; omega)
    · refine ⟨block, h, enough, within, fun i d at_i empty => ?_⟩
      exact absurd ⟨d, List.mem_of_getElem? at_i, empty⟩ some_empty

/-- The blocks of an element have the spans of its repetitions. -/
theorem repeated_iff_isBlock {scene : Scene} {e : Element} {bounds : Bounds} {start stop : Nat} :
    Repeated (fun start stop => ∃ d, Derives scene e start stop d) bounds start stop
      ↔ ∃ block, IsBlock (Derives scene e) bounds start stop block := by
  constructor
  · rintro ⟨count, enough, within, power⟩
    obtain ⟨block, rfl, chained⟩ := power_iff_chained.1 power
    exact chained.exists_isBlock enough within
  · rintro ⟨block, isBlock⟩
    exact ⟨block.length, isBlock.enough, isBlock.within,
      power_iff_chained.2 ⟨block, rfl, isBlock.chained⟩⟩

mutual

theorem spans_eq (scene : Scene) :
    (e : Element) → Spans scene e = fun start stop => ∃ d, Derives scene e start stop d
  | .atom a s => by
    funext start stop
    simp only [Spans, Derives, eq_iff_iff]
    exact ⟨fun ⟨matched, covers⟩ => ⟨_, matched, covers, rfl⟩,
      fun ⟨_, matched, covers, _⟩ => ⟨matched, covers⟩⟩
  | .sequence children s => by
    funext start stop
    simp only [Spans, Derives, rowSpans_eq scene children, eq_iff_iff]
    exact ⟨fun ⟨blocks, row⟩ => ⟨_, blocks, row, rfl⟩, fun ⟨_, blocks, row, _⟩ => ⟨blocks, row⟩⟩
  | .choice branches s => by
    funext start stop
    simp only [Spans, Derives, branchSpans_eq scene branches, eq_iff_iff]
    exact ⟨fun ⟨branch, block, taken⟩ => ⟨_, branch, block, taken, rfl⟩,
      fun ⟨_, branch, block, taken, _⟩ => ⟨branch, block, taken⟩⟩

theorem rowSpans_eq (scene : Scene) :
    (es : List Element) →
      RowSpans scene es = fun start stop => ∃ blocks, DerivesRow scene es start stop blocks
  | [] => by
    funext start stop
    simp [RowSpans, DerivesRow]
  | e :: es => by
    funext start stop
    simp only [RowSpans, DerivesRow, Relation.Comp, spans_eq scene e, rowSpans_eq scene es,
      repeated_iff_isBlock, eq_iff_iff]
    exact ⟨fun ⟨mid, ⟨block, here⟩, rest, later⟩ => ⟨_, mid, block, rest, here, later, rfl⟩,
      fun ⟨_, mid, block, rest, here, later, _⟩ => ⟨mid, ⟨block, here⟩, rest, later⟩⟩

theorem branchSpans_eq (scene : Scene) :
    (bs : List Element) →
      BranchSpans scene bs
        = fun start stop => ∃ branch block, DerivesBranch scene bs branch start stop block
  | [] => by
    funext start stop
    simp [BranchSpans, DerivesBranch]
  | b :: bs => by
    funext start stop
    simp only [BranchSpans, DerivesBranch, spans_eq scene b, branchSpans_eq scene bs,
      repeated_iff_isBlock, eq_iff_iff]
    constructor
    · rintro (⟨block, here⟩ | ⟨branch, block, later⟩)
      · exact ⟨0, block, here⟩
      · exact ⟨branch + 1, block, later⟩
    · rintro ⟨_ | branch, block, taken⟩
      · exact .inl ⟨block, taken⟩
      · exact .inr ⟨branch, block, taken⟩

end

/-- A span of the matches at an offset is one with a token that the elements make up. -/
theorem mem_matchesAt_span_iff {scene : Scene} (located : scene.Located) {elements : List Element}
    (solid : SolidAll elements) {start stop : Nat} :
    (∃ m ∈ matchesAt scene elements start, m.stop = stop)
      ↔ stop ≠ start ∧ RowSpans scene elements start stop := by
  rw [rowSpans_eq, matchesAt_eq]
  simp only [List.mem_map, List.mem_filter, decide_eq_true_eq]
  constructor
  · rintro ⟨_, ⟨⟨blocks, _⟩, ⟨mem, moved⟩, rfl⟩, rfl⟩
    exact ⟨moved, blocks, (mem_rowsAt located elements solid).1 mem⟩
  · rintro ⟨moved, blocks, row⟩
    exact ⟨_, ⟨(blocks, stop), ⟨(mem_rowsAt located elements solid).2 row, moved⟩, rfl⟩, rfl⟩

end SpanSearch.Search
