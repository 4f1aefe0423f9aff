import Mathlib.Data.List.Basic
import SpanSearch.Document.Feed

/-! # Operations on documents

The edits of a document as data, so that any number of them can be carried out in a row. The events
of an operation tell, one after another, how the annotations came to be what they are after it. Only
where tokens were edited, nothing is told of the annotations.
-/

namespace SpanSearch

/-- The board after an edit. It stays as it is if the edit fails. -/
def Board.after (board : Board) (change : Document → Document.Edit α) : Board :=
  match board.edit change with
  | .ok (_, board) => board
  | .error _ => board

/-- The document after an edit, and the events of the edit. There are none if it fails. -/
def Document.after (d : Document) : Document.Edit α → Document × List Event
  | .ok (_, d, events) => (d, events)
  | .error _ => (d, [])

theorem Board.after_eq (board : Board) (change : Document → Document.Edit α) :
    board.after change
      = ⟨(board.document.after (change board.document)).1,
          (board.document.after (change board.document)).2.foldl Feed.send board.feed⟩ := by
  unfold Board.after Board.edit
  cases change board.document with
  | error fault => rfl
  | ok result => rfl

/-- An operation on a document. -/
inductive Operation where
  /-- The identifier is `fresh` if the annotation has none. -/
  | annotate (fresh : String) (a : Annotation)
  | remove (id : String)
  | retype (id type : String)
  | setAttribute (id name value : String)
  | setFlag (place : Nat) (flag : String)
  | insert (place : Nat) (text : String)
  | removeTokens (start count : Nat)

namespace Operation

/-- The board after an operation. -/
def perform (board : Board) : Operation → Board
  | annotate fresh a => board.after (·.annotate fresh a)
  | remove id => board.after (·.remove id)
  | retype id type => board.after (·.retype id type)
  | setAttribute id name value => board.after (·.setAttribute id name value)
  | setFlag place flag => board.after (·.setFlag place flag)
  | insert place text => board.after (·.insert place text)
  | removeTokens start count => board.after (·.removeTokens start count)

/-- The board after several operations. -/
def performAll (board : Board) (ops : List Operation) : Board := ops.foldl perform board

/-- Whether an operation inserts a token at least, or removes one at least. -/
def movesTokens (d : Document) : Operation → Bool
  | insert place text =>
    match d.insert place text with
    | .ok (count, _) => 0 < count
    | .error _ => false
  | removeTokens start count =>
    match d.removeTokens start count with
    | .ok _ => 0 < count
    | .error _ => false
  | _ => false

/-- The document after an operation, and the events of the operation. -/
def outcome (d : Document) : Operation → Document × List Event
  | annotate fresh a => d.after (d.annotate fresh a)
  | remove id => d.after (d.remove id)
  | retype id type => d.after (d.retype id type)
  | setAttribute id name value => d.after (d.setAttribute id name value)
  | setFlag place flag => d.after (d.setFlag place flag)
  | insert place text => d.after (d.insert place text)
  | removeTokens start count => d.after (d.removeTokens start count)

theorem perform_eq (board : Board) (op : Operation) :
    op.perform board
      = ⟨(op.outcome board.document).1,
          (op.outcome board.document).2.foldl Feed.send board.feed⟩ := by
  cases op <;> exact Board.after_eq ..

@[simp] theorem document_perform (board : Board) (op : Operation) :
    (op.perform board).document = (op.outcome board.document).1 := by
  rw [perform_eq]

@[simp] theorem feed_perform (board : Board) (op : Operation) :
    (op.perform board).feed = (op.outcome board.document).2.foldl Feed.send board.feed := by
  rw [perform_eq]

end Operation

/-- Whether an event tells how the one list of annotations becomes the other. An annotation that is
given another type takes its place between those `front` and `back`, which has to be `allowed`. -/
inductive Event.Tells (allowed : List Annotation → Annotation → List Annotation → Prop) :
    Event → List Annotation → List Annotation → Prop
  | tokens {before after} : Tells allowed .tokens before after
  | added {before a} : Tells allowed (.added a) before (before ++ [a])
  | removed {front a back} : Tells allowed (.removed a) (front ++ a :: back) (front ++ back)
  | retyped {front a back type} (named : a.id ≠ none) (differs : a.type ≠ type)
      (place : allowed front { a with type := type } back) :
    Tells allowed (.retyped a.type { a with type := type }) (front ++ a :: back)
      (front ++ { a with type := type } :: back)
  | changed {front a back attributes} :
    Tells allowed (.changed { a with attributes := attributes }) (front ++ a :: back)
      (front ++ { a with attributes := attributes } :: back)

/-- Whether events tell, one after another, how the one list of annotations becomes the other. -/
inductive Replays (allowed : List Annotation → Annotation → List Annotation → Prop) :
    List Event → List Annotation → List Annotation → Prop
  | nil {annotations} : Replays allowed [] annotations annotations
  | cons {event events before mid after} : event.Tells allowed before mid →
      Replays allowed events mid after → Replays allowed (event :: events) before after

section

variable {allowed : List Annotation → Annotation → List Annotation → Prop}
  {before mid after : List Annotation} {event : Event} {events events' : List Event}

theorem Replays.append (first : Replays allowed events before mid)
    (rest : Replays allowed events' mid after) : Replays allowed (events ++ events') before after := by
  induction first with
  | nil => exact rest
  | cons tells _ ih => exact .cons tells (ih rest)

theorem Event.Tells.replays (tells : event.Tells allowed before after) :
    Replays allowed [event] before after :=
  .cons tells .nil

/-- Taking annotations out one by one leaves the others. -/
theorem replays_removed (lost : Annotation → Bool) (front annotations : List Annotation) :
    Replays allowed ((annotations.filter lost).map .removed) (front ++ annotations)
      (front ++ annotations.filter (!lost ·)) := by
  induction annotations generalizing front with
  | nil => exact .nil
  | cons a annotations ih =>
    by_cases gone : lost a = true
    · simp only [List.filter_cons, gone, if_true, List.map_cons, Bool.not_true]
      exact .cons .removed (ih front)
    · have rest := ih (front ++ [a])
      simp only [List.append_assoc, List.singleton_append] at rest
      simpa [List.filter_cons, gone] using rest

end

namespace Document

variable {allowed : List Annotation → Annotation → List Annotation → Prop} {d : Document}
  {id : String} {a : Annotation}

/-- The annotation with an identifier stands between those before it, which have others, and those
after it. -/
theorem exists_place (found : d.find? id = some a) :
    ∃ front back, d.annotations = front ++ a :: back ∧ a.id = some id
      ∧ ∀ b ∈ front, b.id ≠ some id := by
  obtain ⟨same, front, back, split, others⟩ := List.find?_eq_some_iff_append.1 found
  exact ⟨front, back, split, by simpa using same, fun b mem => by simpa using others b mem⟩

theorem replaceFirst_eq {front back : List Annotation} {b : Annotation} (named : a.id = some id)
    (others : ∀ c ∈ front, c.id ≠ some id) :
    replaceFirst id b (front ++ a :: back) = front ++ b :: back := by
  induction front with
  | nil => simp [replaceFirst, named]
  | cons c front ih =>
    obtain ⟨other, others⟩ := List.forall_mem_cons.1 others
    simp [replaceFirst, other, ih others]

theorem eraseP_eq {front back : List Annotation} (named : a.id = some id)
    (others : ∀ c ∈ front, c.id ≠ some id) :
    (front ++ a :: back).eraseP (·.id == some id) = front ++ back := by
  rw [List.eraseP_append_right _ (by simpa using others), List.eraseP_cons_of_pos (by simp [named])]

theorem replays_annotate (d : Document) (fresh : String) (a : Annotation) :
    Replays allowed (d.after (d.annotate fresh a)).2 d.annotations
      (d.after (d.annotate fresh a)).1.annotations := by
  unfold annotate
  dsimp only
  split
  · exact .nil
  · split
    · exact .nil
    · exact Event.Tells.added.replays

theorem replays_remove (d : Document) (id : String) :
    Replays allowed (d.after (d.remove id)).2 d.annotations
      (d.after (d.remove id)).1.annotations := by
  unfold remove
  split
  · exact .nil
  · next a found =>
    obtain ⟨front, back, split, named, others⟩ := exists_place found
    simp only [Document.after, split, eraseP_eq named others]
    exact Event.Tells.removed.replays

theorem replays_retype (d : Document) (id type : String)
    (place : ∀ front a back, d.annotations = front ++ a :: back → a.id = some id →
      a.type ≠ type → allowed front { a with type := type } back) :
    Replays allowed (d.after (d.retype id type)).2 d.annotations
      (d.after (d.retype id type)).1.annotations := by
  unfold retype
  split
  · exact .nil
  · next a found =>
    split
    · exact .nil
    · next differs =>
      obtain ⟨front, back, split, named, others⟩ := exists_place found
      simp only [Document.after, split, replaceFirst_eq named others]
      exact (Event.Tells.retyped (by simp [named]) differs
        (place front a back split named differs)).replays

theorem replays_setAttribute (d : Document) (id name value : String) :
    Replays allowed (d.after (d.setAttribute id name value)).2 d.annotations
      (d.after (d.setAttribute id name value)).1.annotations := by
  unfold setAttribute
  split
  · exact .nil
  · next a found =>
    obtain ⟨front, back, split, named, others⟩ := exists_place found
    simp only [Document.after, split, replaceFirst_eq named others]
    exact Event.Tells.changed.replays

theorem replays_setFlag (d : Document) (place : Nat) (flag : String) :
    Replays allowed (d.after (d.setFlag place flag)).2 d.annotations
      (d.after (d.setFlag place flag)).1.annotations := by
  unfold setFlag
  split
  · exact .nil
  · exact .nil

theorem replays_insert (d : Document) (place : Nat) (text : String) :
    Replays allowed (d.after (d.insert place text)).2 d.annotations
      (d.after (d.insert place text)).1.annotations := by
  unfold insert
  split
  · exact .nil
  · dsimp only
    split
    · exact .nil
    · exact Event.Tells.tokens.replays

theorem replays_removeTokens (d : Document) (start count : Nat) :
    Replays allowed (d.after (d.removeTokens start count)).2 d.annotations
      (d.after (d.removeTokens start count)).1.annotations := by
  unfold removeTokens
  dsimp only
  split
  · exact .nil
  · split
    · exact .nil
    · exact (replays_removed _ [] d.annotations).append Event.Tells.tokens.replays

end Document

namespace Operation

/-- The events of an operation tell what became of the annotations. -/
theorem replays_outcome {allowed : List Annotation → Annotation → List Annotation → Prop}
    (d : Document) (op : Operation)
    (place : ∀ {id type}, op = retype id type → ∀ front a back,
      d.annotations = front ++ a :: back → a.id = some id → a.type ≠ type →
        allowed front { a with type := type } back) :
    Replays allowed (op.outcome d).2 d.annotations (op.outcome d).1.annotations := by
  cases op with
  | annotate fresh a => exact d.replays_annotate fresh a
  | remove id => exact d.replays_remove id
  | retype id type => exact d.replays_retype id type (place rfl)
  | setAttribute id name value => exact d.replays_setAttribute id name value
  | setFlag at_ flag => exact d.replays_setFlag at_ flag
  | insert at_ text => exact d.replays_insert at_ text
  | removeTokens start count => exact d.replays_removeTokens start count

/-- An operation that inserts or removes tokens says so. -/
theorem tokens_mem_outcome {d : Document} {op : Operation} (moves : op.movesTokens d = true) :
    .tokens ∈ (op.outcome d).2 := by
  cases op with
  | insert place text =>
    simp only [movesTokens, Document.insert] at moves
    simp only [outcome, Document.insert]
    by_cases outside : d.tokens.length < place
    · simp [outside] at moves
    · by_cases empty : (d.tokenizer.tokens text).isEmpty = true
      · simp [outside, empty] at moves
      · simp [outside, empty, Document.after]
  | removeTokens start count =>
    simp only [movesTokens, Document.removeTokens] at moves
    simp only [outcome, Document.removeTokens]
    by_cases outside : d.tokens.length < start + count ∨ Offset.limit ≤ start + count
    · simp [outside] at moves
    · by_cases none : count = 0
      · subst none
        split at moves <;> simp at moves
      · simp [outside, none, Document.after]
  | _ => cases moves

end Operation

end SpanSearch
