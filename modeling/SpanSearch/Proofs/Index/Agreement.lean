import SpanSearch.Proofs.Index.Lead

/-! # Observers and fresh indexes

Whether an observer finds the same annotations as an index that is drawn from the document afresh.
That depends on the operations on the document only: it does unless an annotation is given a type by
which it comes before all others of its span.
-/

namespace SpanSearch.Session

/-- The operations among actions. -/
def editsOf (actions : List Action) : List Operation :=
  actions.filterMap fun
    | .edit op => some op
    | _ => none

/-- Whether lookups find the annotations that an index would find that is drawn from the document
afresh. -/
def Agrees (s : Session) : Prop :=
  ∀ type start a,
    a ∈ s.answer type start ↔ a ∈ Index.empty.annotations s.board.document.source type start

variable {allowed : List Annotation → Annotation → List Annotation → Prop} {s : Session}
  {number : Nat} {before : List Annotation} {type : String} {start : Nat} {a : Annotation}

/-- Only operations change the document. -/
theorem document_run (s : Session) (actions : List Action) :
    (s.run actions).board.document = s.board.document.edited (editsOf actions) := by
  have document_sync (observer : Observer) (board : Board) :
      (observer.sync board).2.document = board.document := by
    unfold Observer.sync
    split <;> rfl
  induction actions generalizing s with
  | nil => rfl
  | cons action actions ih =>
    refine (ih (s.step action)).trans ?_
    cases action with
    | edit op =>
      rw [step, Operation.document_perform]
      rfl
    | lookup type start => exact congrArg (Document.edited · _) (document_sync _ _)
    | types => exact congrArg (Document.edited · _) (document_sync _ _)

theorem document_of (tokenizer : Tokenizer) (tokens : List Token) (earlier : List Operation)
    (actions : List Action) :
    (of tokenizer tokens earlier actions).board.document
      = (Document.ofTokens tokenizer tokens).edited (earlier ++ editsOf actions) := by
  rw [Document.edited_append]
  exact (document_run _ actions).trans
    (congrArg (Document.edited · _) (Document.document_performAll _ earlier))

theorem identified_of (tokenizer : Tokenizer) (tokens : List Token) (earlier : List Operation)
    (actions : List Action) : (of tokenizer tokens earlier actions).board.document.Identified := by
  rw [document_of]
  exact (Document.identified_ofTokens tokenizer tokens).edited _

/-- A fresh index finds the first annotation of each span in the document. -/
theorem mem_fresh {d : Document} (identified : d.Identified) :
    a ∈ Index.empty.annotations d.source type start
      ↔ lead d.annotations type a = some a ∧ a.start = start := by
  have drawn : type ∈ (Index.empty.draw d.source type).drawn :=
    (Index.mem_drawn_draw rfl).2 (.inl rfl)
  have led : (Index.empty.draw d.source type).Led d.annotations d.annotations :=
    Index.led_empty.draw Index.tracks_empty
  rw [Index.annotations, Index.mem_filed,
    led.mem_entries_iff Index.tracks_empty.draw identified drawn]

theorem Follows.led_synced (follows : s.Follows Behind number before)
    (led : s.observer.index.Led before before) : s.synced.Led s.annotations s.annotations := by
  rw [follows.synced_eq]
  exact (led.toFinal follows.tracks _).patchAll (follows.tracks.toFinal _) follows.replays

/-- An observer that shows the first of each span finds what a fresh index finds. -/
theorem Follows.agrees (follows : s.Follows Behind number before)
    (led : s.observer.index.Led before before) (identified : s.board.document.Identified) :
    s.Agrees := by
  intro type start a
  have tracks := follows.tracks_synced
  have led := follows.led_synced led
  have drawn : type ∈ (s.synced.draw s.board.document.source type).drawn :=
    (Index.mem_drawn_draw tracks.active).2 (.inl rfl)
  rw [follows.mem_answer, mem_fresh identified,
    (led.draw tracks).mem_entries_iff tracks.draw identified drawn]

/-- As long as no annotation comes before others of its span, the observer shows the first of each
span. -/
theorem Follows.run_led (follows : s.Follows Behind number before)
    (led : s.observer.index.Led before before) (actions : List Action)
    (quiet : ∀ done op, (done ++ [op]) <+: editsOf actions →
      ¬ op.Overtakes (s.board.document.edited done)) :
    ∃ before, (s.run actions).Follows Behind number before
      ∧ (s.run actions).observer.index.Led before before := by
  induction actions generalizing s before with
  | nil => exact ⟨before, follows, led⟩
  | cons action actions ih =>
    cases action with
    | edit op =>
      have first : ¬ op.Overtakes s.board.document := quiet [] op ⟨editsOf actions, rfl⟩
      refine ih (follows.edit (op.replays_outcome _ ?_)) led fun done op' upTo => ?_
      · rintro id type rfl front a back split named differs
        exact not_not.1 fun ahead => first ⟨front, a, back, split, named, differs, ahead⟩
      · rw [step, Operation.document_perform]
        exact quiet (op :: done) op' ((List.prefix_cons_inj op).2 upTo)
    | lookup type start =>
      refine ih (follows.lookup type start) ?_ fun done op upTo => ?_
      · rw [follows.step_lookup]
        exact (follows.led_synced led).draw follows.tracks_synced
      · rw [follows.step_lookup]
        exact quiet done op upTo
    | types =>
      refine ih follows.types ?_ fun done op upTo => ?_
      · rw [follows.step_types]
        exact follows.led_synced led
      · rw [follows.step_types]
        exact quiet done op upTo

/-- What is the first of its span is shown when its type is looked up. -/
theorem Follows.mem_entries_of_lead (follows : s.Follows Behind number before)
    (led : s.observer.index.Led before before) (identified : s.board.document.Identified)
    (first : lead s.annotations type a = some a) :
    (type, a) ∈ (s.synced.draw s.board.document.source type).entries := by
  have tracks := follows.tracks_synced
  have drawn : type ∈ (s.synced.draw s.board.document.source type).drawn :=
    (Index.mem_drawn_draw tracks.active).2 (.inl rfl)
  exact (((follows.led_synced led).draw tracks).mem_entries_iff tracks.draw identified drawn).2 first

/-- What was found by a lookup is found again after annotations of other types were retyped. -/
theorem Follows.mem_answer_retyped (follows : s.Follows allowed number before) {op : Operation}
    {type' : String} {a' : Annotation} (events : (op.outcome s.board.document).2 = [.retyped type' a'])
    (differs : type' ≠ type)
    (mem : (type, a) ∈ (s.synced.draw s.board.document.source type).entries) :
    a ∈ (s.run [.lookup type a.start, .edit op]).answer type a.start := by
  have tracks : (s.synced.draw s.board.document.source type).Tracks s.annotations s.annotations :=
    follows.tracks_synced.draw
  have looked : (s.step (.lookup type a.start)).Follows (fun _ _ _ => True) number s.annotations :=
    follows.lookup type a.start
  have edited : ((s.step (.lookup type a.start)).step (.edit op)).Follows (fun _ _ _ => True) number
      s.annotations :=
    looked.edit (Operation.replays_outcome _ _ fun _ _ _ _ _ _ _ => trivial)
  refine edited.mem_answer.2 ⟨Index.mem_entries_draw_of_mem ?_, rfl⟩
  rw [edited.synced_eq, looked.unread_edit, follows.unread_lookup, follows.step_lookup]
  simp only [events, List.nil_append, List.foldl_cons, List.foldl_nil]
  exact tracks.mem_entries_retyped mem differs

/-- An annotation that comes before others of its span is not shown to whoever has looked these up
before. -/
theorem Follows.not_agrees (follows : s.Follows Behind number before)
    (led : s.observer.index.Led before before) (identified : s.board.document.Identified)
    {op : Operation} (overtakes : op.Overtakes s.board.document) :
    ∃ type start, ¬ (s.run [.lookup type start, .edit op]).Agrees := by
  cases op with
  | retype id type =>
    obtain ⟨front, a, back, split, named, differs, ahead⟩ := overtakes
    obtain ⟨⟨c, mem_c, rivals_c⟩, alone⟩ := Classical.not_imp.1 ahead
    have outcome := identified.outcome_retype split named differs
    generalize retyped : { a with type := type } = a' at *
    have type_a' : a'.type = type := retyped ▸ rfl
    -- the first annotation of the span is found before the operation, and so it is after it
    obtain ⟨b, first⟩ : ∃ b, lead s.annotations a'.type a' = some b :=
      exists_lead (by simp [annotations, split, mem_c]) rivals_c
    obtain ⟨type_b, span⟩ := rivals_iff.1 (List.find?_some first)
    have mem_b : b ∈ s.board.document.annotations := List.mem_of_find?_eq_some first
    rw [← lead_congr span, type_a'] at first
    refine ⟨type, b.start, fun agrees => ?_⟩
    have found := follows.mem_answer_retyped (congrArg Prod.snd outcome) differs
      (follows.mem_entries_of_lead led identified first)
    -- a fresh index finds the annotation instead that comes before it now
    have now := document_run s [.lookup type b.start, .edit (.retype id type)]
    obtain ⟨first', -⟩ :=
      (mem_fresh (now ▸ identified.edited _)).1 ((agrees type b.start b).1 found)
    simp only [now, editsOf, List.filterMap_cons, List.filterMap_nil, Document.edited,
      List.foldl_cons, List.foldl_nil, outcome] at first'
    rw [lead_congr span, ← type_a'] at first'
    have ahead : lead (front ++ a' :: back) a'.type a' = some a' :=
      lead_of_front fun c mem => Bool.eq_false_iff.2 fun rivals => alone ⟨c, mem, rivals⟩
    have same : b = a' := Option.some.inj (first'.symm.trans ahead)
    have same' : b = a := identified.eq_of_id mem_b (by simp [split]) (by rw [same, ← retyped])
    exact differs (by rw [← same', type_b, type_a'])
  | _ => exact overtakes.elim

/-- Whatever is looked up in between, an observer agrees with a fresh index all along some operations
just when none of them makes an annotation come before all others of its type and span. -/
theorem agrees_iff_not_overtakes (tokenizer : Tokenizer) (tokens : List Token)
    (ops : List Operation) :
    (∀ earlier actions, (earlier ++ editsOf actions) <+: ops →
        (Session.of tokenizer tokens earlier actions).Agrees)
      ↔ ∀ done op, (done ++ [op]) <+: ops →
        ¬ op.Overtakes ((Document.ofTokens tokenizer tokens).edited done) := by
  have follows (earlier : List Operation) :
      (of tokenizer tokens earlier []).Follows Behind _ _ :=
    follows_observe (numbered_performAll Feed.numbered_empty earlier)
  have document (earlier : List Operation) : (of tokenizer tokens earlier []).board.document
      = (Document.ofTokens tokenizer tokens).edited earlier := by
    rw [document_of, editsOf, List.filterMap_nil, List.append_nil]
  constructor
  · intro agrees done op upTo overtakes
    rw [← document] at overtakes
    obtain ⟨type, start, differs⟩ :=
      (follows done).not_agrees Index.led_empty (identified_of ..) overtakes
    exact differs (agrees done [.lookup type start, .edit op] upTo)
  · intro quiet earlier actions upTo
    obtain ⟨before, follows, led⟩ := (follows earlier).run_led Index.led_empty actions
      fun done op within => by
        rw [document, ← Document.edited_append]
        refine quiet _ op (List.IsPrefix.trans ?_ upTo)
        rw [List.append_assoc]
        exact (List.prefix_append_right_inj earlier).2 within
    exact follows.agrees led (identified_of tokenizer tokens earlier actions)

theorem not_agrees_retype :
    ¬ (Session.of .standard [.ofText "p"]
        [.annotate "" ⟨some "X1", "u", 0, 1, .empty⟩, .annotate "" ⟨some "X2", "t", 0, 1, .empty⟩]
        [.lookup "t" 0, .edit (.retype "X1" "t")]).Agrees := by
  intro agrees
  obtain ⟨first, -⟩ := (mem_fresh (identified_of ..)).1
    ((agrees "t" 0 ⟨some "X2", "t", 0, 1, .empty⟩).1 (by decide +kernel))
  exact absurd first (by decide +kernel)

end SpanSearch.Session
