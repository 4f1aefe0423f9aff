import Mathlib.Data.List.Basic
import SpanSearch.Document.Feed

/-! # What subscribers get

Whoever has subscribed to a feed and not cancelled gets each event that is sent, after those that are
not read yet. Subscriptions are told apart by their numbers.
-/

namespace SpanSearch.Feed

/-- Whether a subscription is there and not cancelled. -/
def Live (feed : Feed) (number : Nat) : Prop :=
  ∃ s, feed.subscriptions.find? (·.number == number) = some s ∧ s.cancelled = false

/-- Whether the number of the next subscription is not taken yet. -/
def Numbered (feed : Feed) : Prop := ∀ s ∈ feed.subscriptions, s.number < feed.next

variable {feed : Feed} {number : Nat} {event : Event} {events : List Event}

theorem numbered_empty : empty.Numbered := fun _ mem => nomatch mem

theorem Numbered.send (numbered : feed.Numbered) (event : Event) : (feed.send event).Numbered := by
  intro sent mem
  obtain ⟨s, kept, rfl⟩ := List.mem_map.1 mem
  exact numbered s (List.mem_filter.1 kept).1

theorem Numbered.sendAll (numbered : feed.Numbered) (events : List Event) :
    (events.foldl Feed.send feed).Numbered := by
  induction events generalizing feed with
  | nil => exact numbered
  | cons event events ih => exact ih (numbered.send event)

theorem find?_send {s : Subscription}
    (found : feed.subscriptions.find? (·.number == number) = some s)
    (open_ : s.cancelled = false) (event : Event) :
    (feed.send event).subscriptions.find? (·.number == number)
      = some { s with unread := s.unread ++ [event] } := by
  obtain ⟨same, front, back, split, others⟩ := List.find?_eq_some_iff_append.1 found
  have kept : feed.subscriptions.find? (fun s => !s.cancelled && s.number == number) = some s :=
    List.find?_eq_some_iff_append.2
      ⟨by simp [open_, same], front, back, split, fun t mem => by
        rw [Bool.not_and, others t mem, Bool.or_true]⟩
  simp only [Feed.send, List.find?_map, List.find?_filter, Function.comp_def, Bool.decide_and,
    Bool.decide_eq_true, kept, Option.map_some]

theorem Live.send (live : feed.Live number) (event : Event) : (feed.send event).Live number := by
  obtain ⟨s, found, open_⟩ := live
  exact ⟨_, find?_send found open_ event, open_⟩

theorem Live.sendAll (live : feed.Live number) (events : List Event) :
    (events.foldl Feed.send feed).Live number := by
  induction events generalizing feed with
  | nil => exact live
  | cons event events ih => exact ih (live.send event)

theorem Live.unread_send (live : feed.Live number) (event : Event) :
    (feed.send event).unread number = feed.unread number ++ [event] := by
  obtain ⟨s, found, open_⟩ := live
  simp only [unread, find?_send found open_ event, found, Option.map_some, Option.getD_some]

/-- Events are read in the order in which they are sent. -/
theorem Live.unread_sendAll (live : feed.Live number) (events : List Event) :
    (events.foldl Feed.send feed).unread number = feed.unread number ++ events := by
  induction events generalizing feed with
  | nil => simp
  | cons event events ih =>
    rw [List.foldl_cons, ih (live.send event), live.unread_send event, List.append_assoc,
      List.singleton_append]

theorem find?_markRead {s : Subscription}
    (found : feed.subscriptions.find? (·.number == number) = some s) :
    (feed.markRead number).subscriptions.find? (·.number == number)
      = some { s with unread := [] } := by
  have same : s.number = number := by simpa using List.find?_some found
  have unmarked :
      ((fun s : Subscription => s.number == number)
          ∘ fun s => if s.number = number then { s with unread := [] } else s)
        = fun s => s.number == number := by
    funext t
    simp only [Function.comp_def]
    split <;> rfl
  simp only [markRead, List.find?_map, unmarked, found, Option.map_some, same, if_true]

theorem Live.markRead (live : feed.Live number) : (feed.markRead number).Live number := by
  obtain ⟨s, found, open_⟩ := live
  exact ⟨_, find?_markRead found, open_⟩

theorem Live.unread_markRead (live : feed.Live number) :
    (feed.markRead number).unread number = [] := by
  obtain ⟨s, found, -⟩ := live
  simp only [unread, find?_markRead found, Option.map_some, Option.getD_some]

theorem Numbered.find?_subscribe (numbered : feed.Numbered) :
    feed.subscribe.2.subscriptions.find? (·.number == feed.subscribe.1)
      = some ⟨feed.next, false, []⟩ := by
  have old : feed.subscriptions.find? (·.number == feed.next) = none := by
    refine List.find?_eq_none.2 fun s mem => ?_
    have := numbered s mem
    simp only [beq_iff_eq]
    omega
  simp only [subscribe, List.find?_append, old, Option.none_or, List.find?_singleton,
    beq_self_eq_true, if_true]

theorem Numbered.live_subscribe (numbered : feed.Numbered) :
    feed.subscribe.2.Live feed.subscribe.1 :=
  ⟨_, numbered.find?_subscribe, rfl⟩

/-- A new subscriber has nothing to read. -/
theorem Numbered.unread_subscribe (numbered : feed.Numbered) :
    feed.subscribe.2.unread feed.subscribe.1 = [] := by
  simp only [unread, numbered.find?_subscribe, Option.map_some, Option.getD_some]

end SpanSearch.Feed
