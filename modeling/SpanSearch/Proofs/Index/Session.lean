import SpanSearch.Proofs.Document.Subscriber
import SpanSearch.Proofs.Index.Patch

/-! # Documents under observation

A document is edited while lookups are made through an observer, in any order. The observer is out of
date between the lookups, but its index with the events that are not read yet always leads to the
present state of the document. So a lookup finds what the document holds at that moment, and nothing
is filed under types that were not looked up since tokens were last inserted or removed.
-/

namespace SpanSearch

/-- A document with an observer. -/
structure Session where
  board : Board
  observer : Observer
  /-- The types that were looked up since tokens were last inserted or removed. -/
  recent : List String

/-- What is done with a document or asked of its observer. -/
inductive Action where
  | edit (op : Operation)
  /-- The annotations of a type at a start are looked up. -/
  | lookup (type : String) (start : Nat)
  /-- The types are asked for. -/
  | types

namespace Session

/-- A document that is observed from now on. -/
def observe (board : Board) : Session :=
  let (observer, board) := Observer.subscribe board
  ⟨board, observer, []⟩

/-- The session after an action. -/
def step (s : Session) : Action → Session
  | .edit op =>
    ⟨op.perform s.board, s.observer, if op.movesTokens s.board.document then [] else s.recent⟩
  | .lookup type start =>
    let (_, observer, board) := s.observer.annotations s.board type start
    ⟨board, observer, type :: s.recent⟩
  | .types =>
    let (_, observer, board) :=
      s.observer.query s.board fun index source => (index.types source, index)
    ⟨board, observer, s.recent⟩

/-- The session after several actions. -/
def run (s : Session) (actions : List Action) : Session := actions.foldl step s

/-- The session in which operations were carried out on a document of tokens, which is observed from
then on while more is done. -/
def of (tokenizer : Tokenizer) (tokens : List Token) (earlier : List Operation)
    (actions : List Action) : Session :=
  (observe (Operation.performAll (.ofDocument (.ofTokens tokenizer tokens)) earlier)).run actions

/-- The annotations that a lookup would find. -/
def answer (s : Session) (type : String) (start : Nat) : List Annotation :=
  (s.observer.annotations s.board type start).1

/-- The index after all events are read. -/
def synced (s : Session) : Index := (s.observer.sync s.board).1.index

/-- The annotations of the document. -/
def annotations (s : Session) : List Annotation := s.board.document.annotations

/-- Whether the index, which is in step with the annotations that were there `before`, and the events
that are not read yet lead to the present state of the document. -/
structure Follows (allowed : List Annotation → Annotation → List Annotation → Prop) (s : Session)
    (number : Nat) (before : List Annotation) : Prop where
  subscribed : s.observer.subscription? = some number
  live : s.board.feed.Live number
  tracks : s.observer.index.Tracks before before
  replays : Replays allowed (s.board.feed.unread number) before s.annotations
  recent : .tokens ∈ s.board.feed.unread number ∨ s.observer.index.drawn ⊆ s.recent

variable {allowed allowed' : List Annotation → Annotation → List Annotation → Prop} {s : Session}
  {number : Nat} {before : List Annotation} {type : String} {start : Nat}

theorem Follows.synced_eq (follows : s.Follows allowed number before) :
    s.synced
      = (s.board.feed.unread number).foldl (·.patch s.board.document.source) s.observer.index := by
  simp only [synced, Observer.sync, follows.subscribed]

theorem Follows.query_eq (follows : s.Follows allowed number before)
    (ask : Index → Source → α × Index) :
    s.observer.query s.board ask
      = ((ask s.synced s.board.document.source).1,
          { s.observer with index := (ask s.synced s.board.document.source).2 },
          { s.board with feed := s.board.feed.markRead number }) := by
  simp only [Observer.query, synced, Observer.sync, follows.subscribed, Observer.source,
    Option.isSome_some, if_true]

/-- When all events are read, the index is in step with the document. -/
theorem Follows.tracks_synced (follows : s.Follows allowed number before) :
    s.synced.Tracks s.annotations s.annotations := by
  rw [follows.synced_eq]
  exact (follows.tracks.toFinal _).patchAll follows.replays

theorem Follows.drawn_synced (follows : s.Follows allowed number before) :
    s.synced.drawn ⊆ s.recent := by
  rw [follows.synced_eq, Index.drawn_patchAll]
  split
  · exact List.nil_subset _
  · next quiet => exact follows.recent.resolve_left quiet

/-- A session in which all events were just read. -/
theorem Follows.caughtUp (follows : s.Follows allowed number before) {index : Index}
    {recent : List String} (tracks : index.Tracks s.annotations s.annotations)
    (drawn : index.drawn ⊆ recent) :
    Follows allowed'
      ⟨{ s.board with feed := s.board.feed.markRead number }, { s.observer with index := index },
        recent⟩
      number s.annotations where
  subscribed := follows.subscribed
  live := follows.live.markRead
  tracks := tracks
  replays := by
    rw [follows.live.unread_markRead]
    exact .nil
  recent := .inr drawn

theorem Follows.step_lookup (follows : s.Follows allowed number before) :
    s.step (.lookup type start)
      = ⟨{ s.board with feed := s.board.feed.markRead number },
          { s.observer with index := s.synced.draw s.board.document.source type },
          type :: s.recent⟩ := by
  simp only [step, Observer.annotations, follows.query_eq]

theorem Follows.unread_lookup (follows : s.Follows allowed number before) :
    (s.step (.lookup type start)).board.feed.unread number = [] := by
  rw [follows.step_lookup]
  exact follows.live.unread_markRead

theorem Follows.step_types (follows : s.Follows allowed number before) :
    s.step .types
      = ⟨{ s.board with feed := s.board.feed.markRead number },
          { s.observer with index := s.synced }, s.recent⟩ := by
  simp only [step, follows.query_eq]

theorem Follows.lookup (follows : s.Follows allowed number before) (type : String) (start : Nat) :
    (s.step (.lookup type start)).Follows allowed' number s.annotations := by
  rw [follows.step_lookup]
  refine follows.caughtUp follows.tracks_synced.draw fun type' drawn => ?_
  rcases (Index.mem_drawn_draw follows.tracks_synced.active).1 drawn with rfl | drawn
  · exact List.mem_cons_self
  · exact List.mem_cons_of_mem _ (follows.drawn_synced drawn)

theorem Follows.types (follows : s.Follows allowed number before) :
    (s.step .types).Follows allowed' number s.annotations := by
  rw [follows.step_types]
  exact follows.caughtUp follows.tracks_synced follows.drawn_synced

theorem Follows.unread_edit (follows : s.Follows allowed number before) (op : Operation) :
    (s.step (.edit op)).board.feed.unread number
      = s.board.feed.unread number ++ (op.outcome s.board.document).2 := by
  rw [step, Operation.feed_perform, follows.live.unread_sendAll]

theorem Follows.edit (follows : s.Follows allowed number before) {op : Operation}
    (replays : Replays allowed (op.outcome s.board.document).2 s.annotations
      (op.outcome s.board.document).1.annotations) :
    (s.step (.edit op)).Follows allowed number before where
  subscribed := follows.subscribed
  live := by
    simp only [step, Operation.feed_perform]
    exact follows.live.sendAll _
  tracks := follows.tracks
  replays := by
    rw [follows.unread_edit, annotations, step, Operation.document_perform]
    exact follows.replays.append replays
  recent := by
    rw [follows.unread_edit, List.mem_append]
    simp only [step]
    split
    · next moves => exact .inl (.inr (Operation.tokens_mem_outcome moves))
    · exact follows.recent.imp_left Or.inl

/-- An observer that has just subscribed is up to date. -/
theorem follows_observe {board : Board} (numbered : board.feed.Numbered) :
    (observe board).Follows allowed board.feed.next board.document.annotations where
  subscribed := rfl
  live := numbered.live_subscribe
  tracks := Index.tracks_empty
  replays := by
    have nothing : (observe board).board.feed.unread board.feed.next = [] :=
      numbered.unread_subscribe
    rw [nothing]
    exact .nil
  recent := .inr (List.nil_subset _)

/-- Whatever is done, the index and the unread events lead to the present state. -/
theorem Follows.run {s : Session} {before : List Annotation}
    (follows : s.Follows (fun _ _ _ => True) number before) (actions : List Action) :
    ∃ before, (s.run actions).Follows (fun _ _ _ => True) number before := by
  induction actions generalizing s before with
  | nil => exact ⟨before, follows⟩
  | cons action actions ih =>
    cases action with
    | edit op => exact ih (follows.edit (op.replays_outcome _ fun _ _ _ _ _ _ _ => trivial))
    | lookup type start => exact ih (follows.lookup type start)
    | types => exact ih follows.types

theorem numbered_performAll {board : Board} (numbered : board.feed.Numbered)
    (ops : List Operation) : (Operation.performAll board ops).feed.Numbered := by
  induction ops generalizing board with
  | nil => exact numbered
  | cons op ops ih =>
    refine ih ?_
    rw [Operation.feed_perform]
    exact numbered.sendAll _

theorem Follows.mem_answer (follows : s.Follows allowed number before) {a : Annotation} :
    a ∈ s.answer type start
      ↔ (type, a) ∈ (s.synced.draw s.board.document.source type).entries ∧ a.start = start := by
  simp only [answer, Observer.annotations, follows.query_eq, Index.annotations, Index.mem_filed]

theorem Follows.sizes_answer (follows : s.Follows allowed number before) (type : String)
    (start : Nat) : (s.answer type start).Pairwise fun a b => a.size ≠ b.size := by
  simp only [answer, Observer.annotations, follows.query_eq, Index.annotations]
  exact follows.tracks_synced.apart.draw.sizes type start

theorem exists_follows (tokenizer : Tokenizer) (tokens : List Token) (earlier : List Operation)
    (actions : List Action) :
    ∃ number before,
      (of tokenizer tokens earlier actions).Follows (fun _ _ _ => True) number before := by
  have numbered : (Board.ofDocument (.ofTokens tokenizer tokens)).feed.Numbered :=
    Feed.numbered_empty
  exact ⟨_, (follows_observe (numbered_performAll numbered earlier)).run actions⟩

/-- A lookup finds annotations that the document holds at that moment, and exactly one for each of
these of the type that starts there. After the events are read nothing is filed under types that were
not looked up since tokens were last inserted or removed. -/
theorem answer_of_document (tokenizer : Tokenizer) (tokens : List Token)
    (earlier : List Operation) (actions : List Action) (type : String) (start : Nat) :
    let s := Session.of tokenizer tokens earlier actions
    (∀ a ∈ s.answer type start,
        a ∈ s.board.document.annotations ∧ a.type = type ∧ a.start = start)
      ∧ (∀ a ∈ s.board.document.annotations, a.type = type → a.start = start →
        ∃ b, (s.answer type start).filter (·.size == a.size) = [b])
      ∧ ∀ type' ∉ s.recent, ∀ a, (type', a) ∉ s.synced.entries := by
  intro s
  obtain ⟨number, before, follows⟩ := exists_follows tokenizer tokens earlier actions
  have synced := follows.tracks_synced
  have drawn : (s.synced.draw s.board.document.source type).Tracks s.annotations s.annotations :=
    synced.draw
  refine ⟨fun a mem => ?_, fun a mem same here => ?_, fun type' unseen a filed => ?_⟩
  · obtain ⟨filed, here⟩ := follows.mem_answer.1 mem
    obtain ⟨same, held⟩ := drawn.held filed
    exact ⟨held.elim id id, same, here⟩
  · have taken := drawn.covers mem
      ((Index.mem_drawn_draw synced.active).2 (.inl same)) ⟨a, mem, rfl, sameSpan_self a⟩
    obtain ⟨b, filed, span⟩ := Index.taken_iff.1 taken
    rw [same] at filed
    obtain ⟨start_b, size_b⟩ := sameSpan_iff.1 span
    have found : b ∈ s.answer type start :=
      follows.mem_answer.2 ⟨filed, start_b.symm.trans here⟩
    exact ⟨b, by rw [size_b, filter_size_eq (follows.sizes_answer type start) found]⟩
  · exact unseen (follows.drawn_synced (synced.drawn filed))

end Session

end SpanSearch
