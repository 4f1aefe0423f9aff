import SpanSearch.Document.Basic

/-! # Feeds of events

Everyone who subscribes to a feed gets the events that are sent from then on, each of them once and
in order. Who has cancelled is struck off when the next event is sent.
-/

namespace SpanSearch

/-- What has been sent to one subscriber and is not read yet. -/
structure Subscription where
  number : Nat
  cancelled : Bool
  unread : List Event

/-- The subscriptions to a feed, in the order in which they were taken out. -/
structure Feed where
  subscriptions : List Subscription
  /-- The number of the next subscription. -/
  next : Nat

namespace Feed

/-- The feed to which nobody has subscribed. -/
def empty : Feed := ⟨[], 0⟩

/-- Takes out a subscription, and gives its number. -/
def subscribe (feed : Feed) : Nat × Feed :=
  (feed.next, ⟨feed.subscriptions ++ [⟨feed.next, false, []⟩], feed.next + 1⟩)

/-- Cancels a subscription. -/
def cancel (feed : Feed) (number : Nat) : Feed :=
  { feed with
    subscriptions := feed.subscriptions.map fun s =>
      if s.number = number then { s with cancelled := true } else s }

/-- Sends an event to all who have not cancelled, and strikes off the others. -/
def send (feed : Feed) (event : Event) : Feed :=
  { feed with
    subscriptions := (feed.subscriptions.filter (!·.cancelled)).map fun s =>
      { s with unread := s.unread ++ [event] } }

/-- What is not read yet of a subscription. -/
def unread (feed : Feed) (number : Nat) : List Event :=
  ((feed.subscriptions.find? (·.number == number)).map (·.unread)).getD []

/-- The feed when all of a subscription has been read. -/
def markRead (feed : Feed) (number : Nat) : Feed :=
  { feed with
    subscriptions := feed.subscriptions.map fun s =>
      if s.number = number then { s with unread := [] } else s }

end Feed

/-- A document whose changes are sent to subscribers. -/
structure Board where
  document : Document
  feed : Feed

namespace Board

/-- A document to whose changes nobody has subscribed. -/
def ofDocument (d : Document) : Board := ⟨d, .empty⟩

/-- Makes an edit and sends its events. An edit that fails changes nothing. -/
def edit (board : Board) (change : Document → Document.Edit α) : Except EditFault (α × Board) :=
  match change board.document with
  | .error fault => .error fault
  | .ok (answer, document, events) => .ok (answer, ⟨document, events.foldl Feed.send board.feed⟩)

end Board

end SpanSearch
