import SpanSearch.Proofs.Annotation.Order
import SpanSearch.Proofs.Document.Identity
import SpanSearch.Proofs.Index.Session

/-! # Which of several annotations is visible

Of the annotations of one type and span an index shows one. An index that is drawn from a document
shows the first of them in the document. An observer shows the same one as long as no annotation is
given a type by which it comes before others of its span: these are shown then as before, by whoever
has looked them up already, and not by others.
-/

namespace SpanSearch

/-- Whether an annotation is of a type and has the span of another one. -/
def Annotation.rivals (type : String) (a b : Annotation) : Bool := b.type == type && b.sameSpan a

/-- The first annotation of a type that has the span of a given one. -/
def lead (annotations : List Annotation) (type : String) (a : Annotation) : Option Annotation :=
  annotations.find? (a.rivals type)

/-- Whether an annotation stands behind others of its type and span, if there are others. -/
def Behind (front : List Annotation) (a : Annotation) (back : List Annotation) : Prop :=
  (∃ b ∈ back, a.rivals a.type b = true) → ∃ b ∈ front, a.rivals a.type b = true

/-- Whether an operation gives an annotation another type by which it comes before all others of that
type and its span. -/
def Operation.Overtakes (d : Document) : Operation → Prop
  | retype id type =>
    ∃ front a back, d.annotations = front ++ a :: back ∧ a.id = some id ∧ a.type ≠ type
      ∧ ¬ Behind front { a with type := type } back
  | _ => False

section

variable {front back annotations : List Annotation} {type : String} {a b c n : Annotation}

theorem rivals_iff : a.rivals type b = true ↔ b.type = type ∧ b.sameSpan a = true := by
  simp only [ Annotation.rivals, Bool.and_eq_true, beq_iff_eq]

theorem rivals_congr (same : b.sameSpan a = true) : b.rivals type = a.rivals type := by
  funext c
  rw [ Annotation.rivals, Annotation.rivals, Bool.eq_iff_iff]
  simp only [Bool.and_eq_true, beq_iff_eq]
  exact and_congr_right fun _ =>
    ⟨fun span => sameSpan_trans span same, fun span => sameSpan_trans span (sameSpan_symm same)⟩

theorem lead_congr (same : b.sameSpan a = true) : lead annotations type b = lead annotations type a := by
  rw [lead, lead, rivals_congr same]

theorem exists_lead (mem : b ∈ annotations) (rivals : a.rivals type b = true) :
    ∃ n, lead annotations type a = some n :=
  Option.isSome_iff_exists.1 (List.find?_isSome.2 ⟨b, mem, rivals⟩)

/-- The first of a span stays the first when others leave. -/
theorem lead_remove (first : lead (front ++ a :: back) type c = some n) :
    n = a ∨ lead (front ++ back) type c = some n := by
  simp only [lead, List.find?_append, List.find?_cons] at first ⊢
  cases before : front.find? (c.rivals type) with
  | some m => exact .inr (by simpa [before] using first)
  | none =>
    cases here : c.rivals type a with
    | true =>
      rw [before, here, Option.none_or] at first
      exact .inl (Option.some.inj first).symm
    | false => exact .inr (by simpa [before, here] using first)

/-- The first of a span stays the first when others come behind it. -/
theorem lead_enter (behind : Behind front a back)
    (first : lead (front ++ back) type c = some n) : lead (front ++ a :: back) type c = some n := by
  simp only [lead, List.find?_append, List.find?_cons] at first ⊢
  cases before : front.find? (c.rivals type) with
  | some m => simpa [before] using first
  | none =>
    cases here : c.rivals type a with
    | true =>
      obtain ⟨rfl, span⟩ := rivals_iff.1 here
      rw [before, Option.none_or] at first
      have later : a.rivals a.type n = true := by
        rw [rivals_congr span]
        exact List.find?_some first
      obtain ⟨b, mem, rivals⟩ := behind ⟨n, List.mem_of_find?_eq_some first, later⟩
      rw [rivals_congr span] at rivals
      exact absurd rivals (List.find?_eq_none.1 before b mem)
    | false => simpa [before, here] using first

theorem lead_of_front (others : ∀ b ∈ front, a.rivals a.type b = false) :
    lead (front ++ a :: back) a.type a = some a :=
  List.find?_eq_some_iff_append.2 ⟨rivals_iff.2 ⟨rfl, sameSpan_self a⟩, front, back, rfl,
    fun b mem => by rw [others b mem]; rfl⟩

/-- An annotation that stands behind the others of its span is the first if there are none. -/
theorem lead_new (new : lead (front ++ back) a.type a = none) :
    lead (front ++ a :: back) a.type a = some a := by
  rw [lead, List.find?_append, Option.or_eq_none_iff] at new
  exact lead_of_front fun b mem => Bool.eq_false_iff.2 (List.find?_eq_none.1 new.1 b mem)

/-- The first of a span stays the first, if it is not replaced itself. -/
theorem lead_renew (type_b : b.type = a.type) (span : b.sameSpan a = true)
    (first : lead (front ++ a :: back) type c = some n) :
    lead (front ++ b :: back) type c = some n
      ∨ (n = a ∧ lead (front ++ b :: back) type c = some b) := by
  have alike : c.rivals type b = c.rivals type a := by
    rw [ Annotation.rivals, Annotation.rivals, type_b, sameSpan_congr span]
  simp only [lead, List.find?_append, List.find?_cons, alike] at first ⊢
  cases before : front.find? (c.rivals type) with
  | some m => simp_all
  | none =>
    cases here : c.rivals type a with
    | true => simp_all
    | false => simp_all

/-- What a document provides first of a span is the first in the document. -/
theorem find?_ofType (d : Document) (type : String) (a : Annotation) :
    (d.source.ofType type).find? (·.sameSpan a) = lead d.annotations type a := by
  have alike : ∀ b ∈ d.annotations.filter (·.type == type),
      ∀ c ∈ d.annotations.filter (·.type == type), b.sameSpan a = true → c.sameSpan a = true →
        b.precedes c = true := by
    intro b mem_b c mem_c span_b span_c
    obtain ⟨start, size⟩ := sameSpan_iff.1 (sameSpan_trans span_b (sameSpan_symm span_c))
    have type_b : b.type = type := by simpa using (List.mem_filter.1 mem_b).2
    have type_c : c.type = type := by simpa using (List.mem_filter.1 mem_c).2
    exact Annotation.precedes_of_same start size (type_b.trans type_c.symm)
  simp only [Document.source, Document.ofType, Annotation.find?_sort _ alike, List.find?_filter,
    lead]
  congr 1
  funext b
  rw [ Annotation.rivals, Bool.decide_and, Bool.decide_eq_true, Bool.decide_eq_true]

end

namespace Index

/-- Whether an index that follows annotations shows, of each span that has annotations in the end, the
first of those that are there `now`, or the first of those in the end. -/
def Led (index : Index) (now final : List Annotation) : Prop :=
  ∀ type a f, (type, a) ∈ index.entries → lead final type a = some f →
    a.identifier = f.identifier
      ∨ ∃ n, lead now type a = some n ∧ a.identifier = n.identifier

variable {index : Index} {d : Document} {front back before after final : List Annotation}
  {type : String} {a a' : Annotation} {event : Event} {events : List Event}

theorem Led.leave (led : index.Led (front ++ a :: back) d.annotations)
    (tracks : index.Tracks (front ++ a :: back) d.annotations) (span : a'.sameSpan a = true)
    (identifier : a.identifier = a'.identifier) :
    (index.leave d.source a.type a').Led (front ++ back) d.annotations := by
  intro type b f mem final
  rcases tracks.mem_entries_leave mem with ⟨mem, other⟩ | ⟨rfl, -, first⟩
  · refine (led _ _ _ mem final).imp_right fun ⟨n, first, same⟩ => ⟨n, ?_, same⟩
    refine (lead_remove first).resolve_left fun gone => ?_
    obtain ⟨type_a, span_a⟩ := rivals_iff.1 (List.find?_some first)
    subst gone
    have filing : isFiling n.type a' (type, b) = true :=
      isFiling_iff.2 ⟨type_a.symm, sameSpan_trans span span_a, same.trans identifier⟩
    rw [filing] at other
    cases other
  · rw [find?_ofType, final] at first
    exact .inl (congrArg Annotation.identifier (Option.some.inj first).symm)

theorem Led.enter (led : index.Led (front ++ back) final)
    (tracks : index.Tracks (front ++ back) final) (behind : Behind front a back) :
    (index.enter a).Led (front ++ a :: back) final := by
  intro type b f mem last
  rcases mem_entries_enter mem with mem | ⟨drawn, free, new⟩
  · refine (led _ _ _ mem last).imp_right fun ⟨n, first, same⟩ => ⟨n, ?_, same⟩
    exact lead_enter behind first
  · obtain ⟨rfl, rfl⟩ := Prod.mk.inj new
    refine .inr ⟨b, lead_new (Option.eq_none_iff_forall_ne_some.2 fun n first => ?_), rfl⟩
    -- a span that had annotations already would be taken
    obtain ⟨type_n, span_n⟩ := rivals_iff.1 (List.find?_some first)
    obtain ⟨type_f, span_f⟩ := rivals_iff.1 (List.find?_some last)
    have taken := tracks.covers (List.mem_of_find?_eq_some first) (type_n ▸ drawn)
      ⟨f, List.mem_of_find?_eq_some last, type_f.trans type_n.symm,
        sameSpan_trans span_n (sameSpan_symm span_f)⟩
    rw [type_n, taken_congr span_n, free] at taken
    cases taken

theorem Led.renew (led : index.Led (front ++ a :: back) final)
    (tracks : index.Tracks (front ++ a :: back) final) (type_a : a'.type = a.type)
    (span : a'.sameSpan a = true) (identifier : a.identifier = a'.identifier) :
    (index.renew a').Led (front ++ a' :: back) final := by
  intro type b f mem last
  rcases tracks.mem_entries_renew mem with ⟨mem, -⟩ | ⟨drawn, free, new⟩
  · refine (led _ _ _ mem last).imp_right fun ⟨n, first, same⟩ => ?_
    rcases lead_renew type_a span first with kept | ⟨rfl, renewed⟩
    · exact ⟨n, kept, same⟩
    · exact ⟨a', renewed, same.trans identifier⟩
  · obtain ⟨rfl, rfl⟩ := Prod.mk.inj new
    -- the span was taken before, so what was withdrawn had the identifier of the new annotation
    obtain ⟨type_f, span_f⟩ := rivals_iff.1 (List.find?_some last)
    have taken := tracks.covers (a := a) (by simp) (type_a ▸ drawn)
      ⟨f, List.mem_of_find?_eq_some last, type_f.trans type_a,
        sameSpan_trans (sameSpan_symm span) (sameSpan_symm span_f)⟩
    rw [← type_a, ← taken_congr span] at taken
    obtain ⟨c, mem, span_c⟩ := taken_iff.1 taken
    have same : c.identifier = b.identifier := by
      by_contra differ
      have kept : (b.type, c) ∈ (index.withdraw b.type b).2.entries :=
        tracks.apart.mem_entries_withdraw.2
          ⟨mem, Bool.eq_false_iff.2 fun filing => differ (isFiling_iff.1 filing).2.2⟩
      rw [taken_iff.2 ⟨c, kept, span_c⟩] at free
      cases free
    rw [← same]
    rw [lead_congr span_c] at last
    refine (led _ _ _ mem last).imp_right fun ⟨n, first, same'⟩ => ?_
    rw [← lead_congr span_c] at first
    rcases lead_renew type_a span first with kept | ⟨-, renewed⟩
    · exact ⟨n, kept, same'⟩
    · exact ⟨b, renewed, same⟩

theorem led_empty : empty.Led before final := fun _ _ _ mem => nomatch mem

theorem led_clear : index.clear.Led before final := fun _ _ _ mem => nomatch mem

/-- What an index shows goes with an event by which no annotation comes before others. -/
theorem Led.patch (led : index.Led before d.annotations)
    (tracks : index.Tracks before d.annotations) (tells : event.Tells Behind before after) :
    (index.patch d.source event).Led after d.annotations := by
  cases tells with
  | tokens => exact led_clear
  | added =>
    rw [patch_added]
    have none {a : Annotation} : Behind before a [] := fun ⟨_, mem, _⟩ => nomatch mem
    exact Led.enter (by simpa using led) (by simpa using tracks) none
  | removed =>
    rw [patch_removed]
    exact led.leave tracks (sameSpan_self _) rfl
  | @retyped front a back type named _ behind =>
    rw [patch_retyped]
    have span : ({ a with type := type } : Annotation).sameSpan a = true := sameSpan_self a
    have identifier := identifier_of_named (b := { a with type := type }) named rfl
    exact (led.leave tracks span identifier).enter (tracks.leave span identifier) behind
  | changed =>
    rw [patch_changed]
    exact led.renew tracks rfl (sameSpan_iff.2 ⟨rfl, rfl⟩) rfl

theorem Led.patchAll (led : index.Led before d.annotations)
    (tracks : index.Tracks before d.annotations) (replays : Replays Behind events before after) :
    (events.foldl (·.patch d.source) index).Led after d.annotations := by
  induction replays generalizing index with
  | nil => exact led
  | cons tells _ ih => exact ih (led.patch tracks tells) (tracks.patch tells)

/-- An index that is in step and shows the first of each span does so whatever becomes of the
annotations. -/
theorem Led.toFinal (led : index.Led before before) (tracks : index.Tracks before before)
    (final : List Annotation) : index.Led before final := by
  intro type a f mem _
  obtain ⟨same, held⟩ := tracks.held mem
  obtain ⟨n, first⟩ := exists_lead (held.elim id id) (rivals_iff.2 ⟨same, sameSpan_self a⟩)
  refine .inr ⟨n, first, ?_⟩
  rcases led _ _ _ mem first with eq | ⟨n', first', eq⟩
  · exact eq
  · rw [first] at first'
    exact Option.some.inj first' ▸ eq

theorem Led.draw (led : index.Led d.annotations d.annotations)
    (tracks : index.Tracks d.annotations d.annotations) :
    (index.draw d.source type).Led d.annotations d.annotations := by
  intro type b f mem last
  rcases tracks.mem_entries_draw mem with mem | ⟨rfl, first⟩
  · exact led _ _ _ mem last
  · rw [find?_ofType, last] at first
    exact .inl (congrArg Annotation.identifier (Option.some.inj first).symm)

/-- An index that is in step and shows the first of each span has filed just these under a type that
was drawn. -/
theorem Led.mem_entries_iff (led : index.Led d.annotations d.annotations)
    (tracks : index.Tracks d.annotations d.annotations) (identified : d.Identified)
    (drawn : type ∈ index.drawn) :
    (type, a) ∈ index.entries ↔ lead d.annotations type a = some a := by
  have first {b : Annotation} (mem : (type, b) ∈ index.entries) :
      lead d.annotations type b = some b := by
    obtain ⟨same, held⟩ := tracks.held mem
    have held := held.elim id id
    obtain ⟨n, first⟩ := exists_lead held (rivals_iff.2 ⟨same, sameSpan_self b⟩)
    rw [first]
    congr 1
    refine identified.eq_of_identifier (List.mem_of_find?_eq_some first) held ?_
    rcases led _ _ _ mem first with eq | ⟨n', first', eq⟩
    · exact eq.symm
    · rw [first] at first'
      exact Option.some.inj first' ▸ eq.symm
  refine ⟨first, fun lead_a => ?_⟩
  obtain ⟨rfl, -⟩ := rivals_iff.1 (List.find?_some lead_a)
  have mem := List.mem_of_find?_eq_some lead_a
  obtain ⟨b, mem, span⟩ := taken_iff.1 (tracks.covers mem drawn ⟨a, mem, rfl, sameSpan_self a⟩)
  have lead_b := first mem
  rw [← lead_congr span, lead_a] at lead_b
  exact Option.some.inj lead_b ▸ mem

end Index

end SpanSearch
