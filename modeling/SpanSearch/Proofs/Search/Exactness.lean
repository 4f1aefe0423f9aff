import Mathlib.Data.List.Nodup
import SpanSearch.Proofs.Search.Backtracking

/-! # What backtracking lists

Plain backtracking lists all derivations of elements and nothing else, and lists none of them twice.
It relies on a scene that answers as an index does: with annotations that start where they are looked
up and that end further on, none of them twice.
-/

namespace SpanSearch.Search

/-- Whether what a scene provides at an offset starts there and ends without wrapping. -/
structure Scene.Located (scene : Scene) : Prop where
  spans : ∀ {source start a}, a ∈ scene.spans source start →
    a.start = start ∧ 0 < a.size ∧ a.start + a.size < Offset.limit
  annotations : ∀ {type start a}, a ∈ scene.annotations type start →
    a.start = start ∧ a.start + a.size < Offset.limit

/-- Whether a scene provides nothing twice at an offset. -/
structure Scene.Distinct (scene : Scene) : Prop where
  spans : ∀ source start, (scene.spans source start).Nodup
  annotations : ∀ type start, (scene.annotations type start).Nodup

/-- Whether an atom cannot match without a token. -/
def Atom.Solid : Atom → Prop
  | .literal _ texts => texts ≠ []
  | _ => True

/-- Whether an element that is an atom cannot match without a token. -/
def Element.Solid : Element → Prop
  | .atom a _ => Atom.Solid a
  | _ => True

/-- The ends of an atom are those of the tokens it matches. -/
theorem Scene.Located.mem_ends_iff {scene : Scene} (located : scene.Located) {a : Atom}
    {start stop : Nat} {matched : Option Annotation} :
    (stop, matched) ∈ scene.ends start a ↔ scene.Covers a start stop matched := by
  cases a with
  | literal text texts =>
    simp only [Scene.ends, Scene.Covers, beq_iff_eq]
    split
    · next same => simp only [List.mem_singleton, Prod.mk.injEq, same, true_and]
    · next differ => simp only [List.not_mem_nil, differ, false_and]
  | regex source =>
    simp only [Scene.ends, Scene.Covers, List.mem_map, Prod.mk.injEq]
    constructor
    · rintro ⟨a, mem, rfl, rfl⟩
      exact ⟨a, mem, Offset.add_eq (located.spans mem).2.2, rfl⟩
    · rintro ⟨a, mem, rfl, rfl⟩
      exact ⟨a, mem, Offset.add_eq (located.spans mem).2.2, rfl⟩
  | tag tag =>
    simp only [Scene.ends, Scene.Covers, List.mem_map, List.mem_filter, Prod.mk.injEq,
      Bool.and_eq_true, decide_eq_true_eq]
    constructor
    · rintro ⟨a, ⟨mem, size, accepted⟩, rfl, rfl⟩
      exact ⟨a, mem, size, accepted, Offset.add_eq (located.annotations mem).2, rfl⟩
    · rintro ⟨a, mem, size, accepted, rfl, rfl⟩
      exact ⟨a, ⟨mem, size, accepted⟩, Offset.add_eq (located.annotations mem).2, rfl⟩

/-- An atom that cannot match without a token ends further on than it starts. -/
theorem Scene.Located.lt_of_covers {scene : Scene} (located : scene.Located) {a : Atom}
    (solid : Atom.Solid a) {start stop : Nat} {matched : Option Annotation}
    (covers : scene.Covers a start stop matched) : start < stop := by
  cases a with
  | literal text texts =>
    obtain ⟨-, rfl, -⟩ := covers
    have tokens : 0 < texts.length := List.length_pos_iff.2 solid
    omega
  | regex source =>
    obtain ⟨a, mem, rfl, -⟩ := covers
    have := located.spans mem
    omega
  | tag tag =>
    obtain ⟨a, mem, size, -, rfl, -⟩ := covers
    have := located.annotations mem
    omega

theorem Derives.span {scene : Scene} {e : Element} {start stop : Nat} {d : Derivation}
    (h : Derives scene e start stop d) : d.start = start ∧ d.stop = stop := by
  cases e with
  | atom a s =>
    obtain ⟨matched, -, rfl⟩ := h
    exact ⟨rfl, rfl⟩
  | sequence children s =>
    obtain ⟨blocks, -, rfl⟩ := h
    exact ⟨rfl, rfl⟩
  | choice branches s =>
    obtain ⟨branch, block, -, rfl⟩ := h
    exact ⟨rfl, rfl⟩

theorem nil_mem_blocksFrom {occurrences : Nat → Nat → List Derivation} {bounds : Bounds}
    {count start stop : Nat} :
    ([], stop) ∈ blocksFrom occurrences bounds count start
      ↔ bounds.min ≤ count ∧ stop = start := by
  rw [blocksFrom]
  grind

theorem cons_mem_blocksFrom {occurrences : Nat → Nat → List Derivation} {bounds : Bounds}
    {count start stop : Nat} {d : Derivation} {block : List Derivation} :
    (d :: block, stop) ∈ blocksFrom occurrences bounds count start
      ↔ count < bounds.max ∧ d ∈ occurrences count start
        ∧ (block, stop) ∈ blocksFrom occurrences bounds (count + 1) d.stop := by
  rw [blocksFrom]
  grind

/-- The blocks after `count` occurrences are those that make the number of occurrences right. -/
theorem mem_blocksFrom_iff {scene : Scene} {e : Element}
    (once : ∀ {count start d}, d ∈ occurrencesAt scene e count start
      ↔ Derives scene e start d.stop d ∧ Follows e.bounds count start d.stop)
    {count start stop : Nat} {block : List Derivation} :
    (block, stop) ∈ blocksFrom (occurrencesAt scene e) e.bounds count start
      ↔ Chained (Derives scene e) start stop block ∧ e.bounds.min ≤ count + block.length
        ∧ (block ≠ [] → count + block.length ≤ e.bounds.max)
        ∧ ∀ i d, block[i]? = some d → d.start = d.stop → count + i < e.bounds.min := by
  induction block generalizing count start with
  | nil =>
    rw [nil_mem_blocksFrom, Chained]
    simp [and_comm, eq_comm]
  | cons d block ih =>
    rw [cons_mem_blocksFrom, ih, once, Chained, List.length_cons]
    constructor
    · rintro ⟨less, ⟨derives, follows⟩, chained, enough, within, lean⟩
      refine ⟨⟨d.stop, derives, chained⟩, by omega, fun _ => ?_, fun i d' at_i empty => ?_⟩
      · by_cases last : block = []
        · simp only [last, List.length_nil]
          omega
        · have := within last
          omega
      · cases i with
        | zero =>
          obtain rfl : d = d' := by simpa using at_i
          have := derives.span.1
          unfold Follows at follows
          omega
        | succ i =>
          have := lean i d' (by simpa using at_i) empty
          omega
    · rintro ⟨⟨mid, derives, chained⟩, enough, within, lean⟩
      obtain ⟨at_start, rfl⟩ := derives.span
      have within := within (by simp)
      refine ⟨by omega, ⟨derives, fun refused => ?_⟩, chained, by omega, fun _ => by omega,
        fun i d' at_i empty => ?_⟩
      · have := lean 0 d (by simp) (by omega)
        omega
      · have := lean (i + 1) d' (by simpa using at_i) empty
        omega

theorem mem_blocksFrom_zero {scene : Scene} {e : Element}
    (once : ∀ {count start d}, d ∈ occurrencesAt scene e count start
      ↔ Derives scene e start d.stop d ∧ Follows e.bounds count start d.stop)
    {start stop : Nat} {block : List Derivation} :
    (block, stop) ∈ blocksFrom (occurrencesAt scene e) e.bounds 0 start
      ↔ IsBlock (Derives scene e) e.bounds start stop block := by
  rw [mem_blocksFrom_iff once]
  simp only [Nat.zero_add]
  constructor
  · rintro ⟨chained, enough, within, lean⟩
    refine ⟨chained, enough, ?_, lean⟩
    cases block with
    | nil => exact Nat.zero_le _
    | cons d block => exact within (by simp)
  · rintro ⟨chained, enough, within, lean⟩
    exact ⟨chained, enough, fun _ => within, lean⟩

/-- Whether no literal among elements and their descendants is without tokens. -/
def SolidAll (es : List Element) : Prop := ∀ e ∈ Element.walkList es, Element.Solid e

theorem solidAll_cons {e : Element} {es : List Element} :
    SolidAll (e :: es) ↔ (∀ e' ∈ e.walk, Element.Solid e') ∧ SolidAll es := by
  simp only [SolidAll, Element.walkList, List.forall_mem_append]

mutual

/-- Backtracking lists just the occurrences of an element, without those that are refused after
others. -/
theorem mem_occurrencesAt {scene : Scene} (located : scene.Located) :
    (e : Element) → (∀ e' ∈ e.walk, Element.Solid e') → ∀ {count start d},
      d ∈ occurrencesAt scene e count start
        ↔ Derives scene e start d.stop d ∧ Follows e.bounds count start d.stop
  | .atom a s, solid, count, start, d => by
    have solid : Atom.Solid a := solid (.atom a s) (by simp [Element.walk])
    simp only [occurrencesAt, Derives, List.mem_map]
    constructor
    · rintro ⟨⟨stop, matched⟩, mem, rfl⟩
      have covers := located.mem_ends_iff.1 mem
      exact ⟨⟨matched, covers, rfl⟩,
        fun refused => Nat.ne_of_gt (located.lt_of_covers solid covers) refused.1⟩
    · rintro ⟨⟨matched, covers, same⟩, -⟩
      exact ⟨(d.stop, matched), located.mem_ends_iff.2 covers, same.symm⟩
  | .sequence children s, solid, count, start, d => by
    have solid : SolidAll children := fun e mem => solid e (by simp [Element.walk, mem])
    simp only [occurrencesAt, Derives, List.mem_map, List.mem_filter, decide_eq_true_eq]
    constructor
    · rintro ⟨⟨blocks, stop⟩, ⟨mem, follows⟩, rfl⟩
      exact ⟨⟨blocks, (mem_rowsAt located children solid).1 mem, rfl⟩, follows⟩
    · rintro ⟨⟨blocks, row, same⟩, follows⟩
      exact ⟨(blocks, d.stop), ⟨(mem_rowsAt located children solid).2 row, follows⟩, same.symm⟩
  | .choice branches s, solid, count, start, d => by
    have solid : SolidAll branches := fun e mem => solid e (by simp [Element.walk, mem])
    simp only [occurrencesAt, Derives, List.mem_map, List.mem_filter, decide_eq_true_eq]
    constructor
    · rintro ⟨⟨branch, block, stop⟩, ⟨mem, follows⟩, rfl⟩
      exact ⟨⟨branch, block, (mem_branchesAt located branches solid).1 mem, rfl⟩, follows⟩
    · rintro ⟨⟨branch, block, taken, same⟩, follows⟩
      exact ⟨(branch, block, d.stop),
        ⟨(mem_branchesAt located branches solid).2 taken, follows⟩, same.symm⟩

/-- Backtracking lists just the blocks that make up elements in a row. -/
theorem mem_rowsAt {scene : Scene} (located : scene.Located) :
    (es : List Element) → SolidAll es → ∀ {start stop blocks},
      (blocks, stop) ∈ rowsAt scene es start ↔ DerivesRow scene es start stop blocks
  | [], _, start, stop, blocks => by
    simp only [rowsAt, DerivesRow, List.mem_singleton, Prod.mk.injEq]
    constructor
    · rintro ⟨rfl, rfl⟩
      exact ⟨rfl, rfl⟩
    · rintro ⟨rfl, rfl⟩
      exact ⟨rfl, rfl⟩
  | e :: es, solid, start, stop, blocks => by
    obtain ⟨solid, solidRest⟩ := solidAll_cons.1 solid
    have once {count start d} : d ∈ occurrencesAt scene e count start
        ↔ Derives scene e start d.stop d ∧ Follows e.bounds count start d.stop :=
      mem_occurrencesAt located e solid
    simp only [rowsAt, DerivesRow, List.mem_flatMap, List.mem_map, Prod.mk.injEq]
    constructor
    · rintro ⟨⟨block, mid⟩, here, ⟨rest, stop'⟩, later, rfl, rfl⟩
      exact ⟨mid, block, rest, (mem_blocksFrom_zero once).1 here,
        (mem_rowsAt located es solidRest).1 later, rfl⟩
    · rintro ⟨mid, block, rest, here, later, rfl⟩
      exact ⟨(block, mid), (mem_blocksFrom_zero once).2 here, (rest, stop),
        (mem_rowsAt located es solidRest).2 later, rfl, rfl⟩

/-- Backtracking lists just the blocks of branches. -/
theorem mem_branchesAt {scene : Scene} (located : scene.Located) :
    (bs : List Element) → SolidAll bs → ∀ {start branch stop block},
      (branch, block, stop) ∈ branchesAt scene bs start
        ↔ DerivesBranch scene bs branch start stop block
  | [], _, start, branch, stop, block => by simp [branchesAt, DerivesBranch]
  | b :: bs, solid, start, branch, stop, block => by
    obtain ⟨solid, solidRest⟩ := solidAll_cons.1 solid
    have once {count start d} : d ∈ occurrencesAt scene b count start
        ↔ Derives scene b start d.stop d ∧ Follows b.bounds count start d.stop :=
      mem_occurrencesAt located b solid
    simp only [branchesAt, DerivesBranch, List.mem_append, List.mem_map, Prod.mk.injEq]
    cases branch with
    | zero =>
      rw [← mem_blocksFrom_zero once]
      constructor
      · rintro (⟨⟨block', stop'⟩, mem, -, rfl, rfl⟩ | ⟨_, _, absurd, _⟩)
        · exact mem
        · cases absurd
      · exact fun mem => .inl ⟨(block, stop), mem, rfl, rfl, rfl⟩
    | succ branch =>
      refine Iff.trans ?_ (mem_branchesAt located bs solidRest)
      constructor
      · rintro (⟨_, _, absurd, _⟩ | ⟨⟨branch', block', stop'⟩, mem, next, rfl, rfl⟩)
        · cases absurd
        · obtain rfl : branch' = branch := Nat.succ.inj next
          exact mem
      · exact fun mem => .inr ⟨(branch, block, stop), mem, rfl, rfl, rfl⟩

end

/-! ## Derivations end no earlier than they start -/

theorem Chained.le {derives : Nat → Nat → Derivation → Prop} {start stop : Nat}
    {block : List Derivation} (le : ∀ {start stop d}, derives start stop d → start ≤ stop)
    (h : Chained derives start stop block) : start ≤ stop := by
  induction block generalizing start with
  | nil => exact Nat.le_of_eq h
  | cons d block ih =>
    obtain ⟨mid, first, rest⟩ := h
    exact Nat.le_trans (le first) (ih rest)

mutual

theorem le_of_derives {scene : Scene} (located : scene.Located) :
    (e : Element) → (∀ e' ∈ e.walk, Element.Solid e') → ∀ {start stop d},
      Derives scene e start stop d → start ≤ stop
  | .atom a s, solid, _, _, _, ⟨_, covers, _⟩ =>
    Nat.le_of_lt (located.lt_of_covers (solid (.atom a s) (by simp [Element.walk])) covers)
  | .sequence children _, solid, _, _, _, ⟨_, row, _⟩ =>
    le_of_derivesRow located children (fun e mem => solid e (by simp [Element.walk, mem])) row
  | .choice branches _, solid, _, _, _, ⟨_, _, taken, _⟩ =>
    le_of_derivesBranch located branches (fun e mem => solid e (by simp [Element.walk, mem])) taken

theorem le_of_derivesRow {scene : Scene} (located : scene.Located) :
    (es : List Element) → SolidAll es → ∀ {start stop blocks},
      DerivesRow scene es start stop blocks → start ≤ stop
  | [], _, _, _, _, ⟨same, _⟩ => Nat.le_of_eq same
  | e :: es, solid, _, _, _, ⟨_, _, _, here, later, _⟩ =>
    have ⟨solid, solidRest⟩ := solidAll_cons.1 solid
    Nat.le_trans (here.chained.le (le_of_derives located e solid))
      (le_of_derivesRow located es solidRest later)

theorem le_of_derivesBranch {scene : Scene} (located : scene.Located) :
    (bs : List Element) → SolidAll bs → ∀ {branch start stop block},
      DerivesBranch scene bs branch start stop block → start ≤ stop
  | b :: _, solid, 0, _, _, _, here =>
    here.chained.le (le_of_derives located b (solidAll_cons.1 solid).1)
  | _ :: bs, solid, _ + 1, _, _, _, later =>
    le_of_derivesBranch located bs (solidAll_cons.1 solid).2 later

end

/-! ## Nothing is listed twice -/

theorem end_of_mem_blocksFrom {occurrences : Nat → Nat → List Derivation} {bounds : Bounds}
    {count start stop stop' : Nat} {block : List Derivation}
    (h : (block, stop) ∈ blocksFrom occurrences bounds count start)
    (h' : (block, stop') ∈ blocksFrom occurrences bounds count start) : stop = stop' := by
  induction block generalizing count start with
  | nil => rw [(nil_mem_blocksFrom.1 h).2, (nil_mem_blocksFrom.1 h').2]
  | cons d block ih => exact ih (cons_mem_blocksFrom.1 h).2.2 (cons_mem_blocksFrom.1 h').2.2

theorem head_of_mem_map_cons {d : Derivation} {found : List Derivation × Nat}
    {later : List (List Derivation × Nat)}
    (h : found ∈ later.map fun (block, stop) => (d :: block, stop)) : found.1.head? = some d := by
  obtain ⟨_, -, rfl⟩ := List.mem_map.1 h
  rfl

theorem nodup_blocksFrom {occurrences : Nat → Nat → List Derivation} {bounds : Bounds}
    (once : ∀ count start, (occurrences count start).Nodup) (count start : Nat) :
    (blocksFrom occurrences bounds count start).Nodup := by
  induction count, start using blocksFrom.induct bounds with
  | case1 count start ih =>
    rw [blocksFrom, List.nodup_append]
    refine ⟨by split <;> simp, ?_, fun ended mem found mem' same => ?_⟩
    · split
      · next more =>
        refine List.nodup_flatMap.2 ⟨fun d _ => ?_, ?_⟩
        · exact (ih more d).map fun _ _ same => by simpa [Prod.ext_iff] using same
        · refine (once count start).imp fun {d d'} differ found mem mem' => differ ?_
          have head := head_of_mem_map_cons mem
          have head' := head_of_mem_map_cons mem'
          exact Option.some.inj (head.symm.trans head')
      · exact List.nodup_nil
    · -- a block that ends at once has no first occurrence
      have none : ended.1 = [] := by
        split at mem
        · rw [List.mem_singleton.1 mem]
        · cases mem
      split at mem'
      · obtain ⟨d, -, mem'⟩ := List.mem_flatMap.1 mem'
        have head := head_of_mem_map_cons mem'
        rw [← same, none] at head
        cases head
      · cases mem'

theorem Scene.Distinct.nodup_ends {scene : Scene} (distinct : scene.Distinct) (a : Atom)
    (start : Nat) : (scene.ends start a).Nodup := by
  cases a with
  | literal text texts =>
    rw [Scene.ends]
    split <;> simp
  | regex source =>
    exact (distinct.spans source start).map fun _ _ same => Option.some.inj (Prod.mk.inj same).2
  | tag tag =>
    exact ((distinct.annotations tag.type start).filter _).map fun _ _ same =>
      Option.some.inj (Prod.mk.inj same).2

mutual

theorem nodup_occurrencesAt {scene : Scene} (distinct : scene.Distinct) :
    (e : Element) → ∀ count start, (occurrencesAt scene e count start).Nodup
  | .atom a s, _, start => by
    rw [occurrencesAt]
    refine (distinct.nodup_ends a start).map fun _ _ same => ?_
    simpa [Prod.ext_iff] using same
  | .sequence children s, _, start => by
    rw [occurrencesAt]
    refine ((nodup_rowsAt distinct children start).filter _).map fun _ _ same => ?_
    simpa [Prod.ext_iff, and_comm] using same
  | .choice branches s, _, start => by
    rw [occurrencesAt]
    refine ((nodup_branchesAt distinct branches start).filter _).map fun _ _ same => ?_
    simpa [Prod.ext_iff, and_comm, and_left_comm] using same

theorem nodup_rowsAt {scene : Scene} (distinct : scene.Distinct) :
    (es : List Element) → ∀ start, (rowsAt scene es start).Nodup
  | [], start => by simp [rowsAt]
  | e :: es, start => by
    have once : (blocksFrom (occurrencesAt scene e) e.bounds 0 start).Nodup :=
      nodup_blocksFrom (nodup_occurrencesAt distinct e) 0 start
    rw [rowsAt]
    refine List.nodup_flatMap.2 ⟨fun found _ => ?_, ?_⟩
    · exact (nodup_rowsAt distinct es _).map fun _ _ same => by simpa [Prod.ext_iff] using same
    · refine once.imp_of_mem fun {found found'} mem mem' differ row here here' => differ ?_
      obtain ⟨later, -, rfl⟩ := List.mem_map.1 here
      obtain ⟨later', -, same⟩ := List.mem_map.1 here'
      have same : found'.1 = found.1 := (List.cons.inj (Prod.mk.inj same).1).1
      exact Prod.ext same.symm (end_of_mem_blocksFrom mem (same ▸ mem'))

theorem nodup_branchesAt {scene : Scene} (distinct : scene.Distinct) :
    (bs : List Element) → ∀ start, (branchesAt scene bs start).Nodup
  | [], start => by simp [branchesAt]
  | b :: bs, start => by
    have once : (blocksFrom (occurrencesAt scene b) b.bounds 0 start).Nodup :=
      nodup_blocksFrom (nodup_occurrencesAt distinct b) 0 start
    rw [branchesAt, List.nodup_append]
    refine ⟨once.map fun _ _ same => by simpa [Prod.ext_iff] using same,
      (nodup_branchesAt distinct bs start).map fun _ _ same => by simpa [Prod.ext_iff] using same,
      fun found mem found' mem' same => ?_⟩
    obtain ⟨_, -, rfl⟩ := List.mem_map.1 mem
    obtain ⟨_, -, rfl⟩ := List.mem_map.1 mem'
    cases (Prod.mk.inj same).1

end

end SpanSearch.Search
