import SpanSearch.Proofs.Index.Entries

/-! # What an index shows

An index shows the annotations of a type at a start, whether they were drawn from its source already
or not. Seen like this, drawing changes nothing, and each of the other operations changes the
annotations of one type at one start only.
-/

namespace SpanSearch

/-! ## Sets of texts -/

namespace TextSet

theorem mem_keys_insertEntry {key text : String} {entries : List (String × Unit)} :
    text ∈ (Table.insertEntry key () entries).map (·.1) ↔ text = key ∨ text ∈ entries.map (·.1) := by
  induction entries with
  | nil => simp [Table.insertEntry]
  | cons entry rest ih =>
    rw [Table.insertEntry]
    split
    · next same =>
      rw [List.map_cons, List.map_cons, List.mem_cons, List.mem_cons, same]
      simp
    · split
      · rw [List.map_cons, List.mem_cons]
      · rw [List.map_cons, List.map_cons, List.mem_cons, List.mem_cons, ih]
        exact or_left_comm

theorem mem_keys_foldl {text : String} (texts : List String) (set : TextSet) :
    text ∈ (texts.foldl add set).keys ↔ text ∈ set.keys ∨ text ∈ texts := by
  induction texts generalizing set with
  | nil => simp
  | cons first texts ih =>
    have added : text ∈ (set.add first).keys ↔ text = first ∨ text ∈ set.keys :=
      mem_keys_insertEntry
    rw [List.foldl_cons, ih, added, List.mem_cons, or_assoc, or_left_comm]

@[simp] theorem mem_keys_ofTexts {text : String} {texts : List String} :
    text ∈ (ofTexts texts).keys ↔ text ∈ texts := by
  rw [ofTexts, mem_keys_foldl]
  simp [Table.keys, Table.empty]

theorem pairwise_keys (set : TextSet) : set.keys.Pairwise (· < ·) :=
  List.pairwise_map.2 set.ascending

theorem nodup_of_ascending {texts : List String} (ascending : texts.Pairwise (· < ·)) :
    texts.Nodup := by
  apply ascending.imp
  rintro text _ below rfl
  exact String.lt_irrefl text below

/-- Texts in ascending order are told by which they are. -/
theorem eq_of_ascending {texts texts' : List String} (ascending : texts.Pairwise (· < ·))
    (ascending' : texts'.Pairwise (· < ·)) (same : ∀ text, text ∈ texts ↔ text ∈ texts') :
    texts = texts' := by
  have perm := (List.perm_ext_iff_of_nodup (nodup_of_ascending ascending)
    (nodup_of_ascending ascending')).2 same
  exact perm.eq_of_pairwise (fun _ _ _ _ below above => absurd above (String.lt_asymm below))
    ascending ascending'

end TextSet

/-! ## Annotations of one start -/

/-- Whether a list has an annotation of the size of another one. -/
def hasSize (annotations : List Annotation) (a : Annotation) : Bool :=
  annotations.any (·.size == a.size)

/-- A list of annotations with another one behind them, unless one of its size is there. -/
def join (annotations : List Annotation) (a : Annotation) : List Annotation :=
  if hasSize annotations a then annotations else annotations ++ [a]

/-- The annotations that start at an offset, the first of each size. -/
def firstsAt (start : Nat) (annotations : List Annotation) : List Annotation :=
  (annotations.filter (·.start == start)).foldl join []

/-- Whether the size and the identifier of one annotation are those of another. -/
def isCopy (a b : Annotation) : Bool := b.size == a.size && b.identifier == a.identifier

theorem hasSize_eq_false {annotations : List Annotation} {a : Annotation} :
    hasSize annotations a = false ↔ ∀ b ∈ annotations, b.size ≠ a.size := by
  simp [hasSize]

/-- To put one more annotation behind others of different sizes keeps these different. -/
theorem pairwise_join {annotations : List Annotation} {a : Annotation}
    (sizes : annotations.Pairwise fun a b => a.size ≠ b.size) :
    (join annotations a).Pairwise fun a b => a.size ≠ b.size := by
  unfold join
  split
  · exact sizes
  · next free =>
    refine List.pairwise_append.2 ⟨sizes, List.pairwise_singleton .., fun b mem c mem' => ?_⟩
    obtain rfl := List.mem_singleton.1 mem'
    exact hasSize_eq_false.1 (Bool.eq_false_iff.2 free) b mem

theorem mem_foldl_join {annotations later : List Annotation} {a : Annotation}
    (mem : a ∈ later.foldl join annotations) : a ∈ annotations ∨ a ∈ later := by
  induction later generalizing annotations with
  | nil => exact .inl mem
  | cons b later ih =>
    rcases ih mem with mem | mem
    · unfold join at mem
      split at mem
      · exact .inl mem
      · rcases List.mem_append.1 mem with mem | mem
        · exact .inl mem
        · exact .inr (List.mem_cons.2 (.inl (List.mem_singleton.1 mem)))
    · exact .inr (List.mem_cons_of_mem b mem)

/-- What is left of a list that fulfils one condition when the first of its items that fulfils another
one is taken out. -/
theorem filter_eraseP_of_apart {p q : α → Bool} {list : List α}
    (apart : ∀ x ∈ list, p x = true → q x = false) : (list.eraseP p).filter q = list.filter q := by
  induction list with
  | nil => rfl
  | cons x list ih =>
    obtain ⟨here, later⟩ := List.forall_mem_cons.1 apart
    by_cases taken : p x = true
    · rw [List.eraseP_cons_of_pos taken, List.filter_cons_of_neg (by simp [here taken])]
    · rw [List.eraseP_cons_of_neg taken, List.filter_cons, List.filter_cons, ih later]

namespace Index

variable {index index' : Index} {source : Source} {type type' : String} {a : Annotation}
  {start : Nat} {annotations : List Annotation}

/-! ## What is filed -/

theorem taken_eq : index.taken type a = hasSize (index.filed type a.start) a := by
  rw [taken, hasSize, filed, List.any_map, List.any_filter]
  congr 1
  funext entry
  obtain ⟨t, b⟩ := entry
  simp only [ Annotation.sameSpan, Function.comp_apply, Bool.and_assoc, Bool.beq_comm]

theorem filed_file :
    (index.file type a).filed type' start
      = if type' = type ∧ start = a.start then join (index.filed type' start) a
        else index.filed type' start := by
  rw [file, taken_eq]
  by_cases here : type' = type ∧ start = a.start
  · obtain ⟨rfl, rfl⟩ := here
    rw [if_pos (And.intro rfl rfl), join]
    split
    · rfl
    · simp [filed]
  · rw [if_neg here]
    split
    · rfl
    · have apart : ¬ ((type == type' && a.start == start) = true) := by
        rw [Bool.and_eq_true, beq_iff_eq, beq_iff_eq]
        rintro ⟨same, same'⟩
        exact here ⟨same.symm, same'.symm⟩
      simp [filed, apart]

theorem filed_fileAll_of_ne (other : type' ≠ type) :
    (index.fileAll type annotations).filed type' start = index.filed type' start := by
  induction annotations generalizing index with
  | nil => rfl
  | cons a annotations ih =>
    refine (@ih (index.file type a)).trans ?_
    rw [filed_file, if_neg fun here => other here.1]

theorem filed_fileAll :
    (index.fileAll type annotations).filed type start
      = (annotations.filter (·.start == start)).foldl join (index.filed type start) := by
  induction annotations generalizing index with
  | nil => rfl
  | cons a annotations ih =>
    refine (@ih (index.file type a)).trans ?_
    rw [filed_file, List.filter_cons]
    by_cases here : a.start = start
    · rw [if_pos ⟨rfl, here.symm⟩, if_pos (beq_iff_eq.2 here)]
      rfl
    · rw [if_neg fun h => here h.2.symm, if_neg fun h => here (beq_iff_eq.1 h)]

theorem any_isFiling :
    index.entries.any (isFiling type a) = (index.filed type a.start).any (isCopy a) := by
  rw [filed, List.any_map, List.any_filter]
  congr 1
  funext entry
  obtain ⟨t, b⟩ := entry
  simp only [isFiling, isCopy, Annotation.sameSpan, Function.comp_apply, Bool.and_assoc]
  rw [Bool.beq_comm (a := a.start), Bool.beq_comm (a := a.size)]

theorem filed_withdraw :
    (index.withdraw type a).2.filed type' start
      = if type' = type ∧ start = a.start then (index.filed type' start).eraseP (isCopy a)
        else index.filed type' start := by
  simp only [withdraw, filed]
  split
  · next here =>
    obtain ⟨rfl, rfl⟩ := here
    rw [List.eraseP_map, List.eraseP_filter]
    congr 3
    funext entry
    obtain ⟨t, b⟩ := entry
    simp only [isFiling, isCopy, Annotation.sameSpan, Function.comp_apply]
    rw [Bool.beq_comm (a := a.start), Bool.beq_comm (a := a.size)]
    grind
  · next other =>
    congr 1
    apply filter_eraseP_of_apart
    rintro ⟨t, b⟩ - filing
    obtain ⟨same, span, -⟩ := isFiling_iff.1 filing
    by_contra here
    rw [Bool.not_eq_false, Bool.and_eq_true, beq_iff_eq, beq_iff_eq] at here
    exact other ⟨here.1.symm.trans same, here.2.symm.trans (sameSpan_iff.1 span).1.symm⟩

/-! ## What is shown -/

/-- Drawing changes nothing in an index that is disposed or has drawn the type. -/
theorem draw_eq_self (settled : index.disposed = true ∨ type ∈ index.drawn) :
    index.draw source type = index := by
  rw [draw, if_pos (by simpa using settled)]

theorem draw_of_new (open_ : index.disposed = false) (new : type ∉ index.drawn) :
    index.draw source type
      = { index with drawn := type :: index.drawn }.fileAll type (source.ofType type) := by
  rw [draw_eq open_, if_neg (by simpa using new)]

theorem settled_draw :
    (index.draw source type).disposed = true ∨ type ∈ (index.draw source type).drawn := by
  cases open_ : index.disposed with
  | true => exact .inl (disposed_draw.trans open_)
  | false => exact .inr ((mem_drawn_draw open_).2 (.inl rfl))

theorem annotations_of_settled (settled : index.disposed = true ∨ type ∈ index.drawn) :
    index.annotations source type start = index.filed type start := by
  rw [Index.annotations, draw_eq_self settled]

theorem annotations_of_new (open_ : index.disposed = false) (new : type ∉ index.drawn) :
    index.annotations source type start
      = ((source.ofType type).filter (·.start == start)).foldl join (index.filed type start) := by
  rw [Index.annotations, draw_of_new open_ new, filed_fileAll]
  rfl

/-- What an index shows of a type depends on what is filed under it and whether it was drawn. -/
theorem annotations_congr (disposed : index.disposed = index'.disposed)
    (drawn : type ∈ index.drawn ↔ type ∈ index'.drawn)
    (filed : index.filed type start = index'.filed type start) :
    index.annotations source type start = index'.annotations source type start := by
  by_cases settled : index.disposed = true ∨ type ∈ index.drawn
  · rw [annotations_of_settled settled, annotations_of_settled (by rwa [← disposed, ← drawn]), filed]
  · rw [not_or, Bool.not_eq_true] at settled
    rw [annotations_of_new settled.1 settled.2, annotations_of_new (disposed ▸ settled.1)
      (drawn.not.1 settled.2), filed]

/-- Drawing changes nothing that an index shows. -/
@[simp] theorem annotations_draw :
    (index.draw source type').annotations source type start
      = index.annotations source type start := by
  by_cases same : type' = type
  · subst same
    exact annotations_of_settled settled_draw
  · by_cases settled : index.disposed = true ∨ type' ∈ index.drawn
    · rw [draw_eq_self settled]
    · rw [not_or, Bool.not_eq_true] at settled
      have other : type ≠ type' := fun h => same h.symm
      rw [draw_of_new settled.1 settled.2]
      refine annotations_congr disposed_fileAll ?_ (filed_fileAll_of_ne other)
      rw [drawn_fileAll, List.mem_cons, or_iff_right other]

/-- To file an annotation under a type that was drawn changes what is shown there and no more. -/
theorem annotations_file (settled : index.disposed = true ∨ type ∈ index.drawn) :
    (index.file type a).annotations source type' start
      = if type' = type ∧ start = a.start then join (index.annotations source type' start) a
        else index.annotations source type' start := by
  split
  · next here =>
    obtain ⟨rfl, rfl⟩ := here
    rw [annotations_of_settled (by simpa using settled), annotations_of_settled settled, filed_file,
      if_pos (And.intro rfl rfl)]
  · next other =>
    refine annotations_congr disposed_file (by rw [drawn_file]) ?_
    rw [filed_file, if_neg other]

theorem annotations_withdraw (settled : index.disposed = true ∨ type ∈ index.drawn) :
    (index.withdraw type a).2.annotations source type' start
      = if type' = type ∧ start = a.start then
          (index.annotations source type' start).eraseP (isCopy a)
        else index.annotations source type' start := by
  split
  · next here =>
    obtain ⟨rfl, rfl⟩ := here
    have still : (index.withdraw type' a).2.disposed = true
        ∨ type' ∈ (index.withdraw type' a).2.drawn := settled
    rw [annotations_of_settled still, annotations_of_settled settled, filed_withdraw,
      if_pos (And.intro rfl rfl)]
  · next other => exact annotations_congr rfl Iff.rfl (by rw [filed_withdraw, if_neg other])

/-! ## What operations change -/

theorem add_of_disposed (gone : index.disposed = true) :
    index.add source type a = (false, index) := by
  rw [add, draw_eq_self (.inl gone), gone, Bool.true_or, if_pos rfl]

/-- To add is to draw what the source has of the type, if an annotation of the size is shown. -/
theorem add_of_held (held : hasSize (index.annotations source type a.start) a = true) :
    index.add source type a = (false, index.draw source type) := by
  have taken : (index.draw source type).taken type a = true := taken_eq.trans held
  rw [add, taken, Bool.or_true, if_pos rfl]

theorem add_of_free (open_ : index.disposed = false)
    (free : hasSize (index.annotations source type a.start) a = false) :
    index.add source type a = (true, (index.draw source type).file type a) := by
  have untaken : (index.draw source type).taken type a = false := taken_eq.trans free
  rw [add, untaken, disposed_draw, open_, Bool.false_or, if_neg Bool.false_ne_true]

theorem told_remove :
    (index.remove source type a).1 = (index.annotations source type a.start).any (isCopy a) :=
  any_isFiling

theorem annotations_remove :
    (index.remove source type a).2.annotations source type' start
      = if type' = type ∧ start = a.start then
          (index.annotations source type' start).eraseP (isCopy a)
        else index.annotations source type' start := by
  rw [remove, annotations_withdraw settled_draw, annotations_draw]

theorem disposed_remove : (index.remove source type a).2.disposed = index.disposed :=
  disposed_draw

theorem annotations_empty : empty.annotations source type start
    = firstsAt start (source.ofType type) :=
  annotations_of_new rfl List.not_mem_nil

theorem annotations_dispose : index.dispose.annotations source type start = [] :=
  annotations_of_settled (.inl rfl)

/-! ## Types -/

theorem exists_filed_iff :
    (∃ start, index.filed type start ≠ []) ↔ type ∈ index.entries.map (·.1) := by
  constructor
  · rintro ⟨start, filled⟩
    obtain ⟨a, mem⟩ := List.exists_mem_of_ne_nil _ filled
    exact List.mem_map.2 ⟨_, (mem_filed.1 mem).1, rfl⟩
  · intro mem
    obtain ⟨⟨_, a⟩, entry, rfl⟩ := List.mem_map.1 mem
    exact ⟨a.start, List.ne_nil_of_mem (mem_filed.2 ⟨entry, rfl⟩)⟩

end Index

/-- Whether a source names all types that it has annotations of, as sources are to do. -/
def Source.Listed (source : Source) : Prop :=
  ∀ type, ∀ a ∈ source.ofType type, type ∈ source.types

theorem Source.listed_ofList (annotations : List Annotation) : (ofList annotations).Listed := by
  intro type a mem
  obtain ⟨mem, same⟩ := List.mem_filter.1 mem
  exact TextSet.mem_keys_ofTexts.2 (List.mem_map.2 ⟨a, mem, beq_iff_eq.1 same⟩)

theorem Document.listed_source (d : Document) : d.source.Listed := by
  intro type a mem
  obtain ⟨mem, same⟩ := List.mem_filter.1 (List.mem_mergeSort.1 mem)
  exact TextSet.mem_keys_ofTexts.2 (List.mem_map.2 ⟨a, mem, beq_iff_eq.1 same⟩)

namespace Index

variable {index : Index} {source : Source} {type : String}

/-- The types are those under which something is shown and those that the source names. -/
theorem mem_types (listed : source.Listed) :
    type ∈ index.types source
      ↔ index.disposed = false
        ∧ (type ∈ source.types ∨ ∃ start, index.annotations source type start ≠ []) := by
  rw [types]
  cases open_ : index.disposed with
  | true => simp
  | false =>
    simp only [Bool.false_eq_true, if_false, TextSet.mem_keys_ofTexts, List.mem_append, true_and]
    rw [← exists_filed_iff, or_comm]
    by_cases drawn : type ∈ index.drawn
    · simp only [annotations_of_settled (.inr drawn)]
    · refine or_congr_right' fun unnamed => exists_congr fun start => ?_
      have nothing : source.ofType type = [] :=
        List.eq_nil_iff_forall_not_mem.2 fun _ mem => unnamed (listed _ _ mem)
      rw [annotations_of_new open_ drawn, nothing]
      rfl

theorem pairwise_types : (index.types source).Pairwise (· < ·) := by
  unfold types
  split
  · exact .nil
  · exact TextSet.pairwise_keys _

end Index

end SpanSearch
