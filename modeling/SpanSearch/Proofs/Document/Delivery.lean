import SpanSearch.Proofs.Document.Replay

/-! # Delivery of events

A document is edited while subscriptions to its events are taken out, read and cancelled in any
order. Whoever has not cancelled gets each event from the subscription on once and in order: what was
read, followed by what is not read yet, is what was emitted. So each subscriber who took down the
annotations at first can tell the present ones.
-/

namespace SpanSearch

namespace Feed

variable {feed : Feed} {number other : Nat} {s : Subscription}

/-- A change of subscriptions that leaves one alone. -/
theorem find?_map_other {change : Subscription → Subscription} (same : ∀ s, (change s).number = s.number)
    (alone : ∀ s, s.number = number → change s = s) (subscriptions : List Subscription) :
    (subscriptions.map change).find? (·.number == number)
      = subscriptions.find? (·.number == number) := by
  induction subscriptions with
  | nil => rfl
  | cons s subscriptions ih =>
    by_cases here : s.number = number
    · simp [alone s here, here]
    · simp [same s, here, ih]

/-- What is known of a subscription depends on what is found under its number. -/
theorem unread_congr {feed' : Feed}
    (same : feed'.subscriptions.find? (·.number == number)
      = feed.subscriptions.find? (·.number == number)) :
    feed'.unread number = feed.unread number := by
  rw [unread, unread, same]

theorem Live.congr {feed' : Feed} (live : feed.Live number)
    (same : feed'.subscriptions.find? (·.number == number)
      = feed.subscriptions.find? (·.number == number)) :
    feed'.Live number := by
  unfold Live
  rw [same]
  exact live

theorem Live.find?_subscribe (live : feed.Live number) :
    feed.subscribe.2.subscriptions.find? (·.number == number)
      = feed.subscriptions.find? (·.number == number) := by
  obtain ⟨s, found, -⟩ := live
  rw [subscribe, List.find?_append, found, Option.some_or]

theorem find?_cancel_other (feed : Feed) (differs : number ≠ other) :
    (feed.cancel other).subscriptions.find? (·.number == number)
      = feed.subscriptions.find? (·.number == number) := by
  apply find?_map_other
  · intro s
    split <;> rfl
  · intro s here
    exact if_neg (here ▸ differs)

theorem find?_markRead_other (feed : Feed) (differs : number ≠ other) :
    (feed.markRead other).subscriptions.find? (·.number == number)
      = feed.subscriptions.find? (·.number == number) := by
  apply find?_map_other
  · intro s
    split <;> rfl
  · intro s here
    exact if_neg (here ▸ differs)

theorem Numbered.subscribe (numbered : feed.Numbered) : feed.subscribe.2.Numbered := by
  intro s mem
  rcases List.mem_append.1 mem with mem | mem
  · exact Nat.lt_succ_of_lt (numbered s mem)
  · rw [List.mem_singleton.1 mem]
    exact Nat.lt_succ_self _

/-- A change of subscriptions that leaves the numbers alone. -/
theorem Numbered.map {change : Subscription → Subscription} (numbered : feed.Numbered)
    (same : ∀ s, (change s).number = s.number) :
    Numbered { feed with subscriptions := feed.subscriptions.map change } := by
  intro s mem
  obtain ⟨t, held, rfl⟩ := List.mem_map.1 mem
  rw [same]
  exact numbered t held

end Feed

/-- What is done with a board. -/
inductive Board.Step where
  | edit (op : Operation)
  | subscribe
  | cancel (number : Nat)
  /-- All that is unread of a subscription is read. -/
  | read (number : Nat)

namespace Board

/-- The board after a step. -/
def step (board : Board) : Step → Board
  | .edit op => op.perform board
  | .subscribe => { board with feed := board.feed.subscribe.2 }
  | .cancel number => { board with feed := board.feed.cancel number }
  | .read number => { board with feed := board.feed.markRead number }

/-- The board after several steps. -/
def run (board : Board) (steps : List Step) : Board := steps.foldl step board

/-- The operations among several steps. -/
def operations (steps : List Step) : List Operation :=
  steps.filterMap fun
    | .edit op => some op
    | _ => none

/-- What is read of a subscription in several steps. -/
def heard (board : Board) (number : Nat) : List Step → List Event
  | [] => []
  | .read other :: steps =>
    (if other = number then board.feed.unread number else [])
      ++ heard (board.step (.read other)) number steps
  | step :: steps => heard (board.step step) number steps

/-- All that gets to a subscriber in several steps, whether it is read or not. -/
def received (board : Board) (number : Nat) (steps : List Step) : List Event :=
  board.heard number steps ++ (board.run steps).feed.unread number

variable {board : Board} {number : Nat} {steps : List Step}

theorem numbered_step (numbered : board.feed.Numbered) (step : Step) :
    (board.step step).feed.Numbered := by
  cases step with
  | edit op =>
    rw [Board.step, Operation.feed_perform]
    exact numbered.sendAll _
  | subscribe => exact numbered.subscribe
  | cancel other =>
    apply numbered.map
    intro s
    split <;> rfl
  | read other =>
    apply numbered.map
    intro s
    split <;> rfl

theorem numbered_run (numbered : board.feed.Numbered) (steps : List Step) :
    (board.run steps).feed.Numbered := by
  induction steps generalizing board with
  | nil => exact numbered
  | cons step steps ih => exact ih (numbered_step numbered step)

/-- The document depends on the operations alone. -/
theorem document_run (board : Board) (steps : List Step) :
    (board.run steps).document = board.document.edited (operations steps) := by
  induction steps generalizing board with
  | nil => rfl
  | cons step steps ih =>
    refine (ih (board.step step)).trans ?_
    cases step with
    | edit op =>
      rw [step, Operation.document_perform]
      rfl
    | subscribe => rfl
    | cancel other => rfl
    | read other => rfl

/-- Who has not cancelled gets what is emitted after what is not read yet. -/
theorem received_eq (live : board.feed.Live number) (kept : .cancel number ∉ steps) :
    board.received number steps
      = board.feed.unread number ++ board.document.emitted (operations steps) := by
  induction steps generalizing board with
  | nil => exact (List.append_nil _).symm
  | cons step steps ih =>
    obtain ⟨differs, later⟩ := List.ne_and_not_mem_of_not_mem_cons kept
    cases step with
    | edit op =>
      have sent : (op.perform board).feed.Live number := by
        rw [Operation.feed_perform]
        exact live.sendAll _
      calc
        board.received number (.edit op :: steps)
          = (op.perform board).received number steps := rfl
        _ = board.feed.unread number ++ (op.outcome board.document).2
              ++ (op.outcome board.document).1.emitted (operations steps) := by
          rw [ih sent later, Operation.feed_perform, live.unread_sendAll,
            Operation.document_perform]
        _ = board.feed.unread number ++ board.document.emitted (operations (.edit op :: steps)) :=
          List.append_assoc ..
    | subscribe =>
      have same := live.find?_subscribe
      rw [← Feed.unread_congr same]
      exact ih (live.congr same) later
    | cancel other =>
      have same := board.feed.find?_cancel_other
        (fun here : number = other => differs (here ▸ rfl))
      rw [← Feed.unread_congr same]
      exact ih (live.congr same) later
    | read other =>
      by_cases here : other = number
      · subst here
        calc
          board.received other (.read other :: steps)
            = board.feed.unread other ++ (board.step (.read other)).received other steps := by
            rw [received, heard, if_pos rfl, List.append_assoc]
            rfl
          _ = board.feed.unread other ++ board.document.emitted (operations steps) := by
            rw [ih live.markRead later, step, live.unread_markRead]
            rfl
      · have same := board.feed.find?_markRead_other (Ne.symm here)
        calc
          board.received number (.read other :: steps)
            = (board.step (.read other)).received number steps := by
            rw [received, heard, if_neg here]
            rfl
          _ = board.feed.unread number ++ board.document.emitted (operations steps) := by
            rw [ih (live.congr same) later, step, Feed.unread_congr same]

/-- From a subscription on, whatever else is subscribed to, read or cancelled, a subscriber who does
not cancel gets what the operations emit. Replaying it over the annotations at the subscription gives
the present ones, but for spans if tokens were edited. -/
theorem received_since_subscription (tokenizer : Tokenizer) (tokens : List Token)
    (earlier later : List Step) :
    let board := (ofDocument (.ofTokens tokenizer tokens)).run earlier
    let subscribed := board.step .subscribe
    let number := board.feed.subscribe.1
    let events := subscribed.received number later
    let replayed := Event.replayAll events board.document.annotations
    let present := (subscribed.run later).document
    .cancel number ∉ later →
      events = board.document.emitted (operations later)
        ∧ List.Forall₂ Annotation.SameBut replayed present.annotations
        ∧ (.tokens ∉ events → replayed = present.annotations)
        ∧ ((∀ op ∈ operations later, op.isTokenEdit = false) → .tokens ∉ events) := by
  intro board subscribed number events replayed present kept
  have numbered : board.feed.Numbered := numbered_run Feed.numbered_empty earlier
  have identified : board.document.Identified := by
    rw [document_run]
    exact (Document.identified_ofTokens tokenizer tokens).edited _
  have present_eq : present = board.document.edited (operations later) :=
    document_run subscribed later
  have events_eq : events = board.document.emitted (operations later) := by
    refine (received_eq numbered.live_subscribe kept).trans ?_
    rw [show subscribed.feed.unread number = [] from numbered.unread_subscribe]
    rfl
  have replayed_eq : replayed = Event.replayAll (board.document.emitted (operations later))
      board.document.annotations :=
    congrArg (Event.replayAll · _) events_eq
  refine ⟨events_eq, ?_, ?_, ?_⟩
  · rw [replayed_eq, present_eq]
    exact identified.sameBut_emitted (forall₂_sameBut_refl _) _
  · intro quiet
    rw [replayed_eq, present_eq]
    exact identified.replayAll_emitted _ (events_eq ▸ quiet)
  · intro others
    rw [events_eq]
    exact Document.quiet_emitted others

/-- A subscription and an annotation. -/
def firstSteps : List Step := [.subscribe, .edit (.annotate "" ⟨some "X1", "t", 0, 2, .empty⟩)]

/-- The first subscription is cancelled while annotations change. -/
def laterSteps : List Step :=
  [.edit (.annotate "" ⟨some "X2", "t", 1, 1, .empty⟩), .cancel 0, .edit (.retype "X1" "u"), .read 1,
    .subscribe, .edit (.remove "X2")]

theorem received_laterSteps :
    let board := (ofDocument (.ofTokens .standard [.ofText "p", .ofText "q"])).run firstSteps
    let subscribed := board.step .subscribe
    let shortened := laterSteps ++ [.edit (.removeTokens 0 1)]
    board.feed.subscribe.1 = 1
      ∧ .cancel 1 ∉ shortened
      ∧ subscribed.received 1 laterSteps
        = [.added ⟨some "X2", "t", 1, 1, .empty⟩, .retyped "t" ⟨some "X1", "u", 0, 2, .empty⟩,
            .removed ⟨some "X2", "t", 1, 1, .empty⟩]
      ∧ Event.replayAll (subscribed.received 1 laterSteps) board.document.annotations
        = (subscribed.run laterSteps).document.annotations
      ∧ List.Forall₂ Annotation.SameBut
        (Event.replayAll (subscribed.received 1 shortened) board.document.annotations)
        (subscribed.run shortened).document.annotations := by
  intro board subscribed shortened
  have kept : .cancel 1 ∉ laterSteps := by simp [laterSteps]
  have kept' : .cancel 1 ∉ shortened := by simp [shortened, laterSteps]
  obtain ⟨-, -, exactly, quiet⟩ := received_since_subscription .standard
    [.ofText "p", .ofText "q"] firstSteps laterSteps kept
  obtain ⟨-, similar, -⟩ := received_since_subscription .standard
    [.ofText "p", .ofText "q"] firstSteps shortened kept'
  refine ⟨by decide +kernel, kept', by decide +kernel, exactly (quiet ?_), similar⟩
  decide

end Board

end SpanSearch
