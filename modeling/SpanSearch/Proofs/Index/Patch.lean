import SpanSearch.Index.Observer
import SpanSearch.Proofs.Document.Operation
import SpanSearch.Proofs.Index.Entries

/-! # Following the events of a document

Events are read late: when an index follows them one by one, the document is already in its final
state, and this is what annotations are drawn from again. So an entry of the index is an annotation
of the document as it was told so far, or one of the document as it is in the end. A span that has
annotations in both is taken all the time. When all events are read the two coincide.
-/

namespace SpanSearch

theorem mem_ofType {d : Document} {type : String} {a : Annotation} :
    a ∈ d.source.ofType type ↔ a ∈ d.annotations ∧ a.type = type := by
  simp only [Document.source, Document.ofType, Annotation.sort, List.mem_mergeSort, List.mem_filter,
    beq_iff_eq]

theorem identifier_of_named {a b : Annotation} (named : a.id ≠ none) (same : b.id = a.id) :
    a.identifier = b.identifier := by
  unfold Annotation.identifier
  rw [same]
  cases id : a.id with
  | none => exact absurd id named
  | some _ => rfl

namespace Index

/-- The index after an annotation left a type. Nothing happens to types that were not drawn. -/
def leave (index : Index) (source : Source) (type : String) (a : Annotation) : Index :=
  if index.drawn.contains type then index.withdrawAndRefill source type a else index

/-- The index after an annotation came to its type. -/
def enter (index : Index) (a : Annotation) : Index :=
  if index.drawn.contains a.type then index.file a.type a else index

/-- The index after an annotation took the place of one with the same identifier, type and span. -/
def renew (index : Index) (a : Annotation) : Index :=
  if index.drawn.contains a.type then (index.withdraw a.type a).2.file a.type a else index

variable {index : Index} {source : Source} {d : Document} {a a' b : Annotation}
  {front back now : List Annotation} {type type' : String} {entry : String × Annotation}

theorem patch_added : index.patch source (.added a) = index.enter a := rfl

theorem patch_removed : index.patch source (.removed a) = index.leave source a.type a := rfl

theorem patch_retyped :
    index.patch source (.retyped type a) = (index.leave source type a).enter a := rfl

theorem patch_changed : index.patch source (.changed a) = index.renew a := rfl

@[simp] theorem drawn_leave : (index.leave source type a).drawn = index.drawn := by
  unfold leave
  split
  · exact drawn_withdrawAndRefill
  · rfl

@[simp] theorem drawn_enter : (index.enter a).drawn = index.drawn := by
  unfold enter
  split
  · exact drawn_file
  · rfl

@[simp] theorem drawn_renew : (index.renew a).drawn = index.drawn := by
  unfold renew
  split
  · exact drawn_file
  · rfl

/-- Whether an index follows annotations that are `now` as its entries tell, and that are `final` in
the document already. -/
structure Tracks (index : Index) (now final : List Annotation) : Prop where
  active : index.disposed = false
  apart : index.Apart
  drawn : ∀ {type a}, (type, a) ∈ index.entries → type ∈ index.drawn
  held : ∀ {type a}, (type, a) ∈ index.entries → a.type = type ∧ (a ∈ now ∨ a ∈ final)
  covers : ∀ {a}, a ∈ now → a.type ∈ index.drawn →
    (∃ b ∈ final, b.type = a.type ∧ a.sameSpan b = true) → index.taken a.type a = true

/-- The entries after an annotation left a type are others than its own, or the first of their span
in the document. -/
theorem Tracks.mem_entries_leave {final : List Annotation} (tracks : index.Tracks now final)
    (mem : entry ∈ (index.leave source type a).entries) :
    (entry ∈ index.entries ∧ isFiling type a entry = false)
      ∨ (entry.1 = type ∧ type ∈ index.drawn
        ∧ (source.ofType type).find? (·.sameSpan entry.2) = some entry.2) := by
  unfold leave at mem
  split at mem
  · next drawn =>
    rcases tracks.apart.mem_entries_withdrawAndRefill mem with old | ⟨same, first⟩
    · exact .inl old
    · exact .inr ⟨same, by simpa using drawn, first⟩
  · next undrawn =>
    refine .inl ⟨mem, Bool.eq_false_iff.2 fun filing => undrawn ?_⟩
    obtain ⟨rfl, -⟩ := isFiling_iff.1 filing
    simpa using tracks.drawn mem

theorem Tracks.taken_leave {final : List Annotation} (tracks : index.Tracks now final)
    (taken : index.taken type' b = true)
    (another : type' = type → ∃ c ∈ source.ofType type, b.sameSpan c = true) :
    (index.leave source type a).taken type' b = true := by
  unfold leave
  split
  · exact tracks.apart.taken_withdrawAndRefill taken another
  · exact taken

theorem Tracks.mem_entries_leave_of_mem {final : List Annotation} (tracks : index.Tracks now final)
    (mem : entry ∈ index.entries) (other : isFiling type a entry = false) :
    entry ∈ (index.leave source type a).entries := by
  have kept := tracks.apart.mem_entries_withdraw.2 ⟨mem, other⟩
  unfold leave
  split
  · rw [withdrawAndRefill_eq]
    split
    · exact mem_entries_fileAll_of_mem kept
    · exact mem
  · exact mem

/-- What an entry holds is another annotation than the one that it does not file. -/
theorem Tracks.held_other {final : List Annotation}
    (tracks : index.Tracks (front ++ a :: back) final) (mem : (type', b) ∈ index.entries)
    (other : isFiling a.type a' (type', b) = false) (span : a'.sameSpan a = true)
    (identifier : a.identifier = a'.identifier) :
    b.type = type' ∧ (b ∈ front ++ back ∨ b ∈ final) := by
  obtain ⟨rfl, held⟩ := tracks.held mem
  refine ⟨rfl, held.imp_left fun here => ?_⟩
  rw [List.mem_append, List.mem_cons] at here
  rcases here with here | rfl | here
  · exact List.mem_append_left _ here
  · have filing : isFiling b.type a' (b.type, b) = true := isFiling_iff.2 ⟨rfl, span, identifier⟩
    rw [filing] at other
    cases other
  · exact List.mem_append_right _ here

theorem Tracks.leave (tracks : index.Tracks (front ++ a :: back) d.annotations)
    (span : a'.sameSpan a = true) (identifier : a.identifier = a'.identifier) :
    (index.leave d.source a.type a').Tracks (front ++ back) d.annotations where
  active := by
    unfold Index.leave
    split
    · exact disposed_withdrawAndRefill.trans tracks.active
    · exact tracks.active
  apart := by
    unfold Index.leave
    split
    · exact tracks.apart.withdrawAndRefill
    · exact tracks.apart
  drawn mem := by
    rw [drawn_leave]
    rcases tracks.mem_entries_leave mem with ⟨mem, -⟩ | ⟨rfl, drawn, -⟩
    · exact tracks.drawn mem
    · exact drawn
  held {type b} mem := by
    rcases tracks.mem_entries_leave mem with ⟨mem, other⟩ | ⟨rfl, -, first⟩
    · exact tracks.held_other mem other span identifier
    · obtain ⟨mem, same⟩ := mem_ofType.1 (List.mem_of_find?_eq_some first)
      exact ⟨same, .inr mem⟩
  covers {b} mem drawn another := by
    rw [drawn_leave] at drawn
    have before : b ∈ front ++ a :: back := by
      rw [List.mem_append] at mem
      simpa using mem.imp_right Or.inr
    refine tracks.taken_leave (tracks.covers before drawn another) fun same => ?_
    obtain ⟨c, mem, type_c, span⟩ := another
    exact ⟨c, mem_ofType.2 ⟨mem, type_c.trans same⟩, span⟩

theorem mem_entries_enter (mem : entry ∈ (index.enter a).entries) :
    entry ∈ index.entries
      ∨ (a.type ∈ index.drawn ∧ index.taken a.type a = false ∧ entry = (a.type, a)) := by
  unfold enter at mem
  split at mem
  · next drawn => exact (mem_entries_file.1 mem).imp_right fun new => ⟨by simpa using drawn, new⟩
  · exact .inl mem

theorem mem_entries_enter_of_mem (mem : entry ∈ index.entries) :
    entry ∈ (index.enter a).entries := by
  unfold enter
  split
  · exact mem_entries_file.2 (.inl mem)
  · exact mem

/-- What is filed under a type stays there when annotations of another type are retyped. -/
theorem Tracks.mem_entries_retyped {final : List Annotation} (tracks : index.Tracks now final)
    (mem : (type, b) ∈ index.entries) (other : type' ≠ type) :
    (type, b) ∈ (index.patch source (.retyped type' a)).entries := by
  have kept : isFiling type' a (type, b) = false :=
    Bool.eq_false_iff.2 fun filing => other (isFiling_iff.1 filing).1.symm
  rw [patch_retyped]
  exact mem_entries_enter_of_mem (tracks.mem_entries_leave_of_mem mem kept)

theorem Tracks.enter {final : List Annotation} (tracks : index.Tracks (front ++ back) final) :
    (index.enter a).Tracks (front ++ a :: back) final where
  active := by
    unfold Index.enter
    split
    · exact disposed_file.trans tracks.active
    · exact tracks.active
  apart := by
    unfold Index.enter
    split
    · exact tracks.apart.file
    · exact tracks.apart
  drawn mem := by
    rw [drawn_enter]
    rcases mem_entries_enter mem with mem | ⟨drawn, -, new⟩
    · exact tracks.drawn mem
    · obtain ⟨rfl, rfl⟩ := Prod.mk.inj new
      exact drawn
  held mem := by
    rcases mem_entries_enter mem with mem | ⟨-, -, new⟩
    · obtain ⟨same, held⟩ := tracks.held mem
      refine ⟨same, held.imp_left fun here => ?_⟩
      rw [List.mem_append] at here
      simpa using here.imp_right Or.inr
    · obtain ⟨rfl, rfl⟩ := Prod.mk.inj new
      exact ⟨rfl, .inl (by simp)⟩
  covers {b} mem drawn another := by
    rw [drawn_enter] at drawn
    unfold Index.enter
    rw [List.mem_append, List.mem_cons] at mem
    rcases mem with mem | rfl | mem
    · have taken := tracks.covers (List.mem_append_left _ mem) drawn another
      split
      · exact taken_file.2 (.inl taken)
      · exact taken
    · rw [if_pos (by simpa using drawn)]
      exact taken_file.2 (.inr ⟨rfl, sameSpan_self b⟩)
    · have taken := tracks.covers (List.mem_append_right _ mem) drawn another
      split
      · exact taken_file.2 (.inl taken)
      · exact taken

theorem Tracks.mem_entries_renew {final : List Annotation} (tracks : index.Tracks now final)
    (mem : entry ∈ (index.renew a).entries) :
    (entry ∈ index.entries ∧ isFiling a.type a entry = false)
      ∨ (a.type ∈ index.drawn ∧ (index.withdraw a.type a).2.taken a.type a = false
        ∧ entry = (a.type, a)) := by
  unfold renew at mem
  split at mem
  · next drawn =>
    exact (mem_entries_file.1 mem).imp tracks.apart.mem_entries_withdraw.1
      fun new => ⟨by simpa using drawn, new⟩
  · next undrawn =>
    refine .inl ⟨mem, Bool.eq_false_iff.2 fun filing => undrawn ?_⟩
    obtain ⟨same, -⟩ := isFiling_iff.1 filing
    simpa [← same] using tracks.drawn mem

theorem Tracks.renew {final : List Annotation}
    (tracks : index.Tracks (front ++ a :: back) final) (type : a'.type = a.type)
    (span : a'.sameSpan a = true) (identifier : a.identifier = a'.identifier) :
    (index.renew a').Tracks (front ++ a' :: back) final where
  active := by
    unfold Index.renew
    split
    · exact disposed_file.trans tracks.active
    · exact tracks.active
  apart := by
    unfold Index.renew
    split
    · exact tracks.apart.withdraw.file
    · exact tracks.apart
  drawn mem := by
    rw [drawn_renew]
    rcases tracks.mem_entries_renew mem with ⟨mem, -⟩ | ⟨drawn, -, new⟩
    · exact tracks.drawn mem
    · obtain ⟨rfl, rfl⟩ := Prod.mk.inj new
      exact drawn
  held {type' b} mem := by
    rcases tracks.mem_entries_renew mem with ⟨mem, other⟩ | ⟨-, -, new⟩
    · rw [type] at other
      obtain ⟨same, held⟩ := tracks.held_other mem other span identifier
      refine ⟨same, held.imp_left fun here => ?_⟩
      rw [List.mem_append] at here
      simpa using here.imp_right Or.inr
    · obtain ⟨rfl, rfl⟩ := Prod.mk.inj new
      exact ⟨rfl, .inl (by simp)⟩
  covers {b} mem drawn another := by
    rw [drawn_renew] at drawn
    unfold Index.renew
    by_cases here : b.type = a'.type ∧ b.sameSpan a' = true
    · rw [if_pos (by simpa [← here.1] using drawn)]
      exact taken_file.2 (.inr here)
    · have before : b ∈ front ++ a :: back := by
        rw [List.mem_append, List.mem_cons] at mem ⊢
        rcases mem with mem | rfl | mem
        · exact .inl mem
        · exact absurd ⟨rfl, sameSpan_self b⟩ here
        · exact .inr (.inr mem)
      have taken := tracks.covers before drawn another
      split
      · exact taken_file.2 (.inl (tracks.apart.taken_withdraw taken here))
      · exact taken

theorem tracks_clear {final : List Annotation} (active : index.disposed = false) :
    index.clear.Tracks now final :=
  ⟨active, .nil, fun mem => (nomatch mem), fun mem => (nomatch mem), fun _ mem => (nomatch mem)⟩

variable {allowed : List Annotation → Annotation → List Annotation → Prop} {event : Event}
  {events : List Event} {before after : List Annotation}

/-- An index that follows the annotations up to an event follows them over it. -/
theorem Tracks.patch (tracks : index.Tracks before d.annotations)
    (tells : event.Tells allowed before after) :
    (index.patch d.source event).Tracks after d.annotations := by
  cases tells with
  | tokens => exact tracks_clear tracks.active
  | added =>
    rw [patch_added]
    exact Tracks.enter (by simpa using tracks)
  | removed =>
    rw [patch_removed]
    exact tracks.leave (sameSpan_self _) rfl
  | @retyped front a back type named =>
    rw [patch_retyped]
    have span : ({ a with type := type } : Annotation).sameSpan a = true := sameSpan_self a
    exact (tracks.leave span (identifier_of_named named rfl)).enter
  | changed =>
    rw [patch_changed]
    exact tracks.renew rfl (sameSpan_iff.2 ⟨rfl, rfl⟩) rfl

/-- An index that reads all events follows the annotations to the end. -/
theorem Tracks.patchAll (tracks : index.Tracks before d.annotations)
    (replays : Replays allowed events before after) :
    (events.foldl (·.patch d.source) index).Tracks after d.annotations := by
  induction replays generalizing index with
  | nil => exact tracks
  | cons tells _ ih => exact ih (tracks.patch tells)

/-- An index that is in step follows the annotations whatever becomes of them. -/
theorem Tracks.toFinal (tracks : index.Tracks now now) (final : List Annotation) :
    index.Tracks now final where
  active := tracks.active
  apart := tracks.apart
  drawn := tracks.drawn
  held mem := (tracks.held mem).imp_right fun held => .inl (held.elim id id)
  covers mem drawn _ := tracks.covers mem drawn ⟨_, mem, rfl, sameSpan_self _⟩

/-- An index without entries of which nothing was drawn is in step with whatever is there. -/
theorem tracks_empty : empty.Tracks now now :=
  ⟨rfl, .nil, fun mem => (nomatch mem), fun mem => (nomatch mem), fun _ mem => (nomatch mem)⟩

theorem Tracks.mem_entries_draw {final : List Annotation} (tracks : index.Tracks now final)
    (mem : entry ∈ (index.draw source type).entries) :
    entry ∈ index.entries
      ∨ (entry.1 = type ∧ (source.ofType type).find? (·.sameSpan entry.2) = some entry.2) := by
  rw [draw_eq tracks.active] at mem
  split at mem
  · exact .inl mem
  · exact (mem_entries_fileAll mem).imp_right fun new => ⟨new.1, new.2.2⟩

theorem mem_entries_draw_of_mem (mem : entry ∈ index.entries) :
    entry ∈ (index.draw source type).entries := by
  unfold draw
  split
  · exact mem
  · exact mem_entries_fileAll_of_mem mem

theorem Tracks.draw (tracks : index.Tracks d.annotations d.annotations) :
    (index.draw d.source type).Tracks d.annotations d.annotations where
  active := disposed_draw.trans tracks.active
  apart := tracks.apart.draw
  drawn mem := by
    rw [mem_drawn_draw tracks.active]
    rcases tracks.mem_entries_draw mem with old | ⟨same, -⟩
    · exact .inr (tracks.drawn old)
    · exact .inl same
  held mem := by
    rcases tracks.mem_entries_draw mem with old | ⟨rfl, first⟩
    · exact tracks.held old
    · obtain ⟨mem, same⟩ := mem_ofType.1 (List.mem_of_find?_eq_some first)
      exact ⟨same, .inr mem⟩
  covers {a} mem drawn another := by
    rw [mem_drawn_draw tracks.active] at drawn
    rw [draw_eq tracks.active]
    split
    · next old =>
      refine tracks.covers mem (drawn.elim (fun same => ?_) id) another
      simpa [same] using old
    · refine taken_fileAll.2 (drawn.elim (fun same => .inr ?_) fun drawn => .inl ?_)
      · exact ⟨same, a, mem_ofType.2 ⟨mem, same⟩, sameSpan_self a⟩
      · exact tracks.covers mem drawn another

/-- Types are drawn by lookups only, and token edits undo that. -/
theorem drawn_patch :
    (index.patch source event).drawn = if event = .tokens then [] else index.drawn := by
  cases event <;> simp [patch_added, patch_removed, patch_retyped, patch_changed]
  rfl

theorem drawn_patchAll :
    (events.foldl (·.patch source) index).drawn = if .tokens ∈ events then [] else index.drawn := by
  induction events generalizing index with
  | nil => rfl
  | cons event events ih =>
    rw [List.foldl_cons, ih, drawn_patch]
    by_cases later : .tokens ∈ events
    · simp [later]
    · by_cases here : event = .tokens
      · simp [here]
      · simp [later, here, Ne.symm here]

end Index

end SpanSearch
