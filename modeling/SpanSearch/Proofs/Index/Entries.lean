import SpanSearch.Proofs.Index.Lawful

/-! # What operations do to entries

What is filed in an index after annotations were filed, drawn, withdrawn or drawn again. A span that
is taken under a type stays taken, unless its annotation is withdrawn and the source has no other one
for it.
-/

namespace SpanSearch

theorem sameSpan_self (a : Annotation) : a.sameSpan a = true := sameSpan_iff.2 ⟨rfl, rfl⟩

theorem sameSpan_symm {a b : Annotation} (same : a.sameSpan b = true) : b.sameSpan a = true := by
  rw [sameSpan_iff] at same ⊢
  exact ⟨same.1.symm, same.2.symm⟩

theorem sameSpan_trans {a b c : Annotation} (first : a.sameSpan b = true)
    (second : b.sameSpan c = true) : a.sameSpan c = true := by
  rw [sameSpan_iff] at first second ⊢
  exact ⟨first.1.trans second.1, first.2.trans second.2⟩

/-- Annotations of the same span have the same spans in common with others. -/
theorem sameSpan_congr {a b : Annotation} (same : a.sameSpan b = true) (c : Annotation) :
    a.sameSpan c = b.sameSpan c := by
  rw [sameSpan_iff] at same
  simp only [ Annotation.sameSpan, same]

theorem sameSpan_right {a b : Annotation} (same : a.sameSpan b = true) (c : Annotation) :
    c.sameSpan a = c.sameSpan b := by
  rw [sameSpan_iff] at same
  simp only [ Annotation.sameSpan, same]

/-- Among annotations of different sizes just one has the size of one of them. -/
theorem filter_size_eq {annotations : List Annotation} {a : Annotation}
    (sizes : annotations.Pairwise fun a b => a.size ≠ b.size) (mem : a ∈ annotations) :
    annotations.filter (·.size == a.size) = [a] := by
  induction sizes with
  | nil => cases mem
  | @cons b annotations differ _ ih =>
    rcases List.mem_cons.1 mem with rfl | mem
    · rw [List.filter_cons_of_pos (by simp), List.filter_eq_nil_iff.2 fun c mem same => ?_]
      exact differ c mem (beq_iff_eq.1 same).symm
    · rw [List.filter_cons_of_neg (by simpa using differ a mem), ih mem]

namespace Index

variable {index : Index} {source : Source} {type type' : String} {a b : Annotation}
  {annotations : List Annotation} {entry : String × Annotation}

theorem taken_iff :
    index.taken type a = true ↔ ∃ b, (type, b) ∈ index.entries ∧ a.sameSpan b = true := by
  simp only [taken, List.any_eq_true, Prod.exists, Bool.and_eq_true, beq_iff_eq]
  constructor
  · rintro ⟨_, b, mem, rfl, same⟩
    exact ⟨b, mem, same⟩
  · rintro ⟨b, mem, same⟩
    exact ⟨type, b, mem, rfl, same⟩

theorem taken_congr (same : a.sameSpan b = true) : index.taken type a = index.taken type b := by
  simp only [taken, sameSpan_congr same]

/-! ## Filing -/

@[simp] theorem drawn_file : (index.file type a).drawn = index.drawn := by
  unfold file
  split <;> rfl

@[simp] theorem disposed_file : (index.file type a).disposed = index.disposed := by
  unfold file
  split <;> rfl

theorem mem_entries_file :
    entry ∈ (index.file type a).entries
      ↔ entry ∈ index.entries ∨ (index.taken type a = false ∧ entry = (type, a)) := by
  unfold file
  split
  · next taken => simp [taken]
  · next free => simp [Bool.eq_false_iff.2 free]

theorem taken_file :
    (index.file type a).taken type' b = true
      ↔ index.taken type' b = true ∨ (type' = type ∧ b.sameSpan a = true) := by
  simp only [taken_iff, mem_entries_file, Prod.mk.injEq]
  constructor
  · rintro ⟨c, mem | ⟨-, rfl, rfl⟩, same⟩
    · exact .inl ⟨c, mem, same⟩
    · exact .inr ⟨rfl, same⟩
  · rintro (⟨c, mem, same⟩ | ⟨rfl, same⟩)
    · exact ⟨c, .inl mem, same⟩
    · cases taken : index.taken type' a with
      | false => exact ⟨a, .inr ⟨rfl, rfl, rfl⟩, same⟩
      | true =>
        obtain ⟨c, mem, same'⟩ := taken_iff.1 taken
        exact ⟨c, .inl mem, sameSpan_trans same same'⟩

@[simp] theorem drawn_fileAll : (index.fileAll type annotations).drawn = index.drawn := by
  induction annotations generalizing index with
  | nil => rfl
  | cons a annotations ih => exact ih.trans drawn_file

@[simp] theorem disposed_fileAll : (index.fileAll type annotations).disposed = index.disposed := by
  induction annotations generalizing index with
  | nil => rfl
  | cons a annotations ih => exact ih.trans disposed_file

theorem Apart.fileAll (apart : index.Apart) : (index.fileAll type annotations).Apart := by
  induction annotations generalizing index with
  | nil => exact apart
  | cons a annotations ih => exact ih apart.file

theorem taken_fileAll :
    (index.fileAll type annotations).taken type' b = true
      ↔ index.taken type' b = true ∨ (type' = type ∧ ∃ a ∈ annotations, b.sameSpan a = true) := by
  induction annotations generalizing index with
  | nil => simp [fileAll]
  | cons a annotations ih =>
    refine (@ih (index.file type a)).trans ?_
    simp only [taken_file, List.mem_cons, exists_eq_or_imp, or_assoc, and_or_left]

theorem mem_entries_fileAll_of_mem (mem : entry ∈ index.entries) :
    entry ∈ (index.fileAll type annotations).entries := by
  induction annotations generalizing index with
  | nil => exact mem
  | cons a annotations ih => exact ih (mem_entries_file.2 (.inl mem))

/-- What is newly filed is the first of its span among what is to be filed. -/
theorem mem_entries_fileAll (mem : entry ∈ (index.fileAll type annotations).entries) :
    entry ∈ index.entries
      ∨ (entry.1 = type ∧ index.taken type entry.2 = false
        ∧ annotations.find? (·.sameSpan entry.2) = some entry.2) := by
  induction annotations generalizing index with
  | nil => exact .inl mem
  | cons a annotations ih =>
    rcases ih mem with mem | ⟨same, free, first⟩
    · rcases mem_entries_file.1 mem with mem | ⟨free, rfl⟩
      · exact .inl mem
      · exact .inr ⟨rfl, free, List.find?_cons_of_pos (sameSpan_self a)⟩
    · have free : ¬ ((index.taken type entry.2 = true) ∨ (type = type ∧ entry.2.sameSpan a = true)) :=
        fun taken => by simp [taken_file.2 taken] at free
      rw [not_or] at free
      refine .inr ⟨same, Bool.eq_false_iff.2 free.1, ?_⟩
      have other : ¬ a.sameSpan entry.2 = true := fun here => free.2 ⟨rfl, sameSpan_symm here⟩
      rw [List.find?_cons, Bool.eq_false_iff.2 other, first]

/-- What is the first of its span is filed, if the span is free. -/
theorem mem_entries_fileAll_of_first (free : index.taken type a = false)
    (first : annotations.find? (·.sameSpan a) = some a) :
    (type, a) ∈ (index.fileAll type annotations).entries := by
  induction annotations generalizing index with
  | nil => cases first
  | cons b annotations ih =>
    rw [List.find?_cons] at first
    cases here : b.sameSpan a with
    | true =>
      obtain rfl : b = a := by simpa [here] using first
      have filed : (type, b) ∈ (index.file type b).entries :=
        mem_entries_file.2 (.inr ⟨free, rfl⟩)
      show (type, b) ∈ ((index.file type b).fileAll type annotations).entries
      exact mem_entries_fileAll_of_mem filed
    | false =>
      rw [here] at first
      refine ih (Bool.eq_false_iff.2 fun taken => ?_) first
      rcases taken_file.1 taken with taken | ⟨-, same⟩
      · rw [free] at taken
        cases taken
      · rw [sameSpan_symm same] at here
        cases here

/-- Under a type of which nothing is filed yet, the first annotation of each span is filed. -/
theorem mem_entries_fileAll_iff (new : ∀ entry ∈ index.entries, entry.1 ≠ type) :
    (type', a) ∈ (index.fileAll type annotations).entries
      ↔ (type', a) ∈ index.entries
        ∨ (type' = type ∧ annotations.find? (·.sameSpan a) = some a) := by
  have free : index.taken type a = false := Bool.eq_false_iff.2 fun taken => by
    obtain ⟨b, mem, -⟩ := taken_iff.1 taken
    exact new _ mem rfl
  constructor
  · exact fun mem => (mem_entries_fileAll mem).imp_right fun ⟨same, _, first⟩ => ⟨same, first⟩
  · rintro (mem | ⟨rfl, first⟩)
    · exact mem_entries_fileAll_of_mem mem
    · exact mem_entries_fileAll_of_first free first

/-! ## Withdrawing -/

theorem isFiling_iff :
    isFiling type a entry = true
      ↔ entry.1 = type ∧ a.sameSpan entry.2 = true ∧ entry.2.identifier = a.identifier := by
  simp only [isFiling, Bool.and_eq_true, beq_iff_eq, and_assoc]

theorem mem_eraseP_iff {p : α → Bool} {list : List α} {x : α}
    (once : list.Pairwise fun x y => p x = true → p y = false) :
    x ∈ list.eraseP p ↔ x ∈ list ∧ p x = false := by
  induction once with
  | nil => simp
  | @cons first rest others _ ih =>
    by_cases here : p first = true
    · rw [List.eraseP_cons_of_pos here, List.mem_cons]
      constructor
      · exact fun mem => ⟨.inr mem, others x mem here⟩
      · rintro ⟨rfl | mem, other⟩
        · rw [here] at other
          cases other
        · exact mem
    · rw [List.eraseP_cons_of_neg here, List.mem_cons, List.mem_cons]
      constructor
      · rintro (rfl | mem)
        · exact ⟨.inl rfl, Bool.eq_false_iff.2 here⟩
        · exact ⟨.inr (ih.1 mem).1, (ih.1 mem).2⟩
      · rintro ⟨rfl | mem, other⟩
        · exact .inl rfl
        · exact .inr (ih.2 ⟨mem, other⟩)

theorem Apart.withdraw (apart : index.Apart) : (index.withdraw type a).2.Apart :=
  apart.sublist List.eraseP_sublist

/-- One entry at most is the filing of an annotation, so that nothing else is withdrawn. -/
theorem Apart.mem_entries_withdraw (apart : index.Apart) :
    entry ∈ (index.withdraw type a).2.entries
      ↔ entry ∈ index.entries ∧ isFiling type a entry = false := by
  have once : index.entries.Pairwise fun x y => isFiling type a x = true → isFiling type a y = false := by
    refine apart.imp fun {x y} apart first => Bool.eq_false_iff.2 fun second => ?_
    obtain ⟨type_x, span_x, -⟩ := isFiling_iff.1 first
    obtain ⟨type_y, span_y, -⟩ := isFiling_iff.1 second
    have differ := apart (type_x.trans type_y.symm)
    rw [sameSpan_trans (sameSpan_symm span_x) span_y] at differ
    cases differ
  exact mem_eraseP_iff once

/-- A span stays taken when an annotation is withdrawn, unless that is of the span. -/
theorem Apart.taken_withdraw (apart : index.Apart) (taken : index.taken type' b = true)
    (other : ¬ (type' = type ∧ b.sameSpan a = true)) :
    (index.withdraw type a).2.taken type' b = true := by
  obtain ⟨c, mem, same⟩ := taken_iff.1 taken
  refine taken_iff.2 ⟨c, apart.mem_entries_withdraw.2 ⟨mem, Bool.eq_false_iff.2 fun filing => ?_⟩,
    same⟩
  obtain ⟨rfl, span, -⟩ := isFiling_iff.1 filing
  exact other ⟨rfl, sameSpan_trans same (sameSpan_symm span)⟩

theorem withdraw_of_not_any (absent : index.entries.any (isFiling type a) = false) :
    index.withdraw type a = (false, index) := by
  have none : ∀ entry ∈ index.entries, ¬ isFiling type a entry = true := by
    simpa [List.any_eq_false] using absent
  rw [withdraw, absent, List.eraseP_of_forall_not none]

theorem withdrawAndRefill_eq :
    index.withdrawAndRefill source type a
      = if index.entries.any (isFiling type a) then
          (index.withdraw type a).2.refill source type a.start
        else index := by
  unfold withdrawAndRefill
  cases present : index.entries.any (isFiling type a) with
  | true =>
    have eq : index.withdraw type a = (true, (index.withdraw type a).2) := by
      rw [← present]
      rfl
    rw [eq]
    rfl
  | false =>
    rw [withdraw_of_not_any present]
    rfl

@[simp] theorem drawn_withdrawAndRefill :
    (index.withdrawAndRefill source type a).drawn = index.drawn := by
  rw [withdrawAndRefill_eq]
  split
  · exact drawn_fileAll
  · rfl

@[simp] theorem disposed_withdrawAndRefill :
    (index.withdrawAndRefill source type a).disposed = index.disposed := by
  rw [withdrawAndRefill_eq]
  split
  · exact disposed_fileAll
  · rfl

theorem Apart.withdrawAndRefill (apart : index.Apart) :
    (index.withdrawAndRefill source type a).Apart := by
  rw [withdrawAndRefill_eq]
  split
  · exact apart.withdraw.fileAll
  · exact apart

/-- What is filed after an annotation was withdrawn was filed before, or is the first of its span
that the source has. -/
theorem Apart.mem_entries_withdrawAndRefill (apart : index.Apart)
    (mem : entry ∈ (index.withdrawAndRefill source type a).entries) :
    (entry ∈ index.entries ∧ isFiling type a entry = false)
      ∨ (entry.1 = type
        ∧ (source.ofType type).find? (·.sameSpan entry.2) = some entry.2) := by
  rw [withdrawAndRefill_eq] at mem
  split at mem
  · rcases mem_entries_fileAll mem with mem | ⟨same, -, first⟩
    · exact .inl (apart.mem_entries_withdraw.1 mem)
    · refine .inr ⟨same, ?_⟩
      have here : entry.2.start = a.start := by
        simpa using (List.mem_filter.1 (List.mem_of_find?_eq_some first)).2
      rw [List.find?_filter] at first
      refine Eq.trans ?_ first
      congr 1
      funext c
      simp only [ Annotation.sameSpan, here]
      by_cases start : c.start = a.start <;> simp [start, Bool.beq_eq_decide_eq]
  · next absent =>
    simp only [Bool.not_eq_true, List.any_eq_false] at absent
    exact .inl ⟨mem, absent entry mem⟩

/-- A span stays taken when an annotation is withdrawn if the source has another one for it. -/
theorem Apart.taken_withdrawAndRefill (apart : index.Apart) (taken : index.taken type' b = true)
    (another : type' = type → ∃ c ∈ source.ofType type, b.sameSpan c = true) :
    (index.withdrawAndRefill source type a).taken type' b = true := by
  rw [withdrawAndRefill_eq]
  split
  · refine taken_fileAll.2 ?_
    by_cases here : type' = type ∧ b.sameSpan a = true
    · obtain ⟨c, mem, same⟩ := another here.1
      refine .inr ⟨here.1, c, List.mem_filter.2 ⟨mem, ?_⟩, same⟩
      rw [beq_iff_eq, ← (sameSpan_iff.1 same).1, (sameSpan_iff.1 here.2).1]
    · exact .inl (apart.taken_withdraw taken here)
  · exact taken

/-! ## Drawing -/

theorem draw_eq (open_ : index.disposed = false) :
    index.draw source type
      = if index.drawn.contains type then index
        else { index with drawn := type :: index.drawn }.fileAll type (source.ofType type) := by
  simp only [draw, open_, Bool.false_or]

theorem mem_drawn_draw (open_ : index.disposed = false) :
    type' ∈ (index.draw source type).drawn ↔ type' = type ∨ type' ∈ index.drawn := by
  rw [draw_eq open_]
  split
  · next drawn =>
    constructor
    · exact .inr
    · rintro (rfl | mem)
      · simpa using drawn
      · exact mem
  · rw [drawn_fileAll, List.mem_cons]

@[simp] theorem disposed_draw : (index.draw source type).disposed = index.disposed := by
  unfold draw
  split
  · rfl
  · exact disposed_fileAll

theorem Apart.draw (apart : index.Apart) : (index.draw source type).Apart := by
  unfold Index.draw
  split
  · exact apart
  · exact fileAll apart

/-! ## Adding without a source -/

theorem entries_file : (index.file type a).entries
    = if index.taken type a then index.entries else index.entries ++ [(type, a)] := by
  unfold file
  split <;> rfl

theorem entries_file_congr {index' : Index} (same : index.entries = index'.entries) :
    (index.file type a).entries = (index'.file type a).entries := by
  rw [entries_file, entries_file, taken, taken, same]

theorem entries_draw_none : (index.draw .none type).entries = index.entries := by
  unfold draw
  split <;> rfl

/-- Where nothing is drawn from a source, to add an annotation is to file it. -/
theorem entries_add_none (open_ : index.disposed = false) :
    (index.add .none type a).2.entries = (index.file type a).entries := by
  have drawn : ((index.draw .none type).file type a).entries = (index.file type a).entries :=
    entries_file_congr entries_draw_none
  have still : (index.draw .none type).disposed = false := disposed_draw.trans open_
  rw [← drawn, entries_file]
  simp only [add, still, Bool.false_or]
  split
  · rfl
  · next free => rw [entries_file, if_neg free]

theorem disposed_add : (index.add source type a).2.disposed = index.disposed := by
  unfold add
  dsimp only
  split
  · exact disposed_draw
  · exact disposed_file.trans disposed_draw

theorem entries_addEach {index' : Index} (open_ : index.disposed = false)
    (same : index.entries = index'.entries) :
    (annotations.foldl (fun index a => (index.add .none type a).2) index).entries
      = (index'.fileAll type annotations).entries := by
  induction annotations generalizing index index' with
  | nil => exact same
  | cons a annotations ih =>
    exact ih (disposed_add.trans open_) ((entries_add_none open_).trans (entries_file_congr same))

theorem disposed_addEach :
    (annotations.foldl (fun index a => (index.add source type a).2) index).disposed
      = index.disposed := by
  induction annotations generalizing index with
  | nil => rfl
  | cons a annotations ih => exact ih.trans disposed_add

theorem Tidy.addEach (tidy : index.Tidy) (bounded : ∀ a ∈ annotations, a.Bounded) :
    (annotations.foldl (fun index a => (index.add .none type a).2) index).Tidy := by
  induction annotations generalizing index with
  | nil => exact tidy
  | cons a annotations ih =>
    obtain ⟨here, later⟩ := List.forall_mem_cons.1 bounded
    exact ih (tidy.add Source.bounded_none here) later

/-- To add annotations of one type is to add each under that type. -/
theorem addAll_eq (same : ∀ a ∈ annotations, a.type = type) :
    index.addAll source annotations
      = annotations.foldl (fun index a => (index.add source type a).2) index := by
  induction annotations generalizing index with
  | nil => rfl
  | cons a annotations ih =>
    obtain ⟨rfl, later⟩ := List.forall_mem_cons.1 same
    exact ih later

end Index

end SpanSearch
