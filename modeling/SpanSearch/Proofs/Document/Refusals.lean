import SpanSearch.Proofs.Document.Delivery
import SpanSearch.Proofs.Document.InPlace

/-! # Refused operations

An operation that is made in place is refused before it has changed anything or sent an event. What
is refused can be said in advance: a span, an offset or a range that exceeds the tokens, an identifier
that is in use already, and one that is not in use.
-/

namespace SpanSearch

namespace Document

theorem isSome_find?_iff {d : Document} {id : String} :
    (d.find? id).isSome = true ↔ ∃ a ∈ d.annotations, a.id = some id := by
  simp [find?]

theorem find?_eq_none_iff {d : Document} {id : String} :
    d.find? id = none ↔ ∀ a ∈ d.annotations, a.id ≠ some id := by
  simp [find?]

/-- The fault of an edit that fails. -/
def Edit.fault? : Edit α → Option EditFault
  | .ok _ => none
  | .error fault => some fault

end Document

namespace Operation

variable {d : Document} {op : Operation} {id : String} {fault : EditFault}

/-- The fault of an operation that fails. -/
def fault? (d : Document) : Operation → Option EditFault
  | annotate fresh a => (d.annotate fresh a).fault?
  | remove id => (d.remove id).fault?
  | retype id type => (d.retype id type).fault?
  | setAttribute id name value => (d.setAttribute id name value).fault?
  | setFlag place flag => (d.setFlag place flag).fault?
  | insert place text => (d.insert place text).fault?
  | removeTokens start count => (d.removeTokens start count).fault?

/-! ## In place -/

/-- The fault of what was made in place, and the board after it, as far as it was changed. -/
def told : Except EditFault α × Board → Option EditFault × Board
  | (.ok _, board) => (none, board)
  | (.error fault, board) => (some fault, board)

/-- Makes an operation in place. -/
def attempt (board : Board) : Operation → Option EditFault × Board
  | annotate fresh a => told ((Board.Program.annotate fresh a).on board)
  | remove id => told ((Board.Program.remove id).on board)
  | retype id type => told ((Board.Program.retype id type).on board)
  | setAttribute id name value => told ((Board.Program.setAttribute id name value).on board)
  | setFlag place flag => told ((Board.Program.setFlag place flag).on board)
  | insert place text => told ((Board.Program.insert place text).on board)
  | removeTokens start count => told ((Board.Program.removeTokens start count).on board)

theorem told_settle (board : Board) (change : Document → Document.Edit α) :
    told (Board.Program.settle board (change board.document))
      = ((change board.document).fault?, board.after change) := by
  unfold Board.after Board.edit
  cases change board.document with
  | ok result => rfl
  | error fault => rfl

/-- It makes no difference to the board whether an operation is made in place. -/
theorem attempt_eq (board : Board) (op : Operation) :
    op.attempt board = (op.fault? board.document, op.perform board) := by
  cases op with
  | annotate fresh a =>
    rw [attempt, Board.Program.on_annotate]
    exact told_settle board (·.annotate fresh a)
  | remove id =>
    rw [attempt, Board.Program.on_remove]
    exact told_settle board (·.remove id)
  | retype id type =>
    rw [attempt, Board.Program.on_retype]
    exact told_settle board (·.retype id type)
  | setAttribute id name value =>
    rw [attempt, Board.Program.on_setAttribute]
    exact told_settle board (·.setAttribute id name value)
  | setFlag place flag =>
    rw [attempt, Board.Program.on_setFlag]
    exact told_settle board (·.setFlag place flag)
  | insert place text =>
    rw [attempt, Board.Program.on_insert]
    exact told_settle board (·.insert place text)
  | removeTokens start count =>
    rw [attempt, Board.Program.on_removeTokens]
    exact told_settle board (·.removeTokens start count)

/-- An operation that fails leaves the document, and has no events. -/
theorem outcome_of_fault? (failed : op.fault? d = some fault) : op.outcome d = (d, []) := by
  have after_eq {α : Type} {e : Document.Edit α} (failed : e.fault? = some fault) :
      d.after e = (d, []) := by
    cases e with
    | ok result => cases failed
    | error fault => rfl
  cases op <;> exact after_eq failed

/-! ## What is refused -/

/-- Whether an operation has an argument that the document does not allow. -/
def Refused (d : Document) : Operation → Prop
  | annotate _ a =>
    d.tokens.length < a.start + a.size
      ∨ ∃ id, a.id = some id ∧ ∃ b ∈ d.annotations, b.id = some id
  | remove id | retype id _ | setAttribute id _ _ => ∀ a ∈ d.annotations, a.id ≠ some id
  | setFlag place _ => d.tokens.length ≤ place
  | insert place _ => d.tokens.length < place
  | removeTokens start count => d.tokens.length < start + count

/-- Whether an annotation that is put on ends at an offset, and an identifier that is made for it is
new. -/
def Fair (d : Document) : Operation → Prop
  | annotate fresh a =>
    a.start + a.size < Offset.limit ∧ (a.id = none → ∀ b ∈ d.annotations, b.id ≠ some fresh)
  | _ => True

theorem fault?_annotate {fresh : String} {a : Annotation} (fair : (annotate fresh a).Fair d) :
    ((annotate fresh a).fault? d).isSome = true ↔ (annotate fresh a).Refused d := by
  obtain ⟨ends, new⟩ := fair
  have stop_eq : a.stop = a.start + a.size := Offset.add_eq ends
  have used : (d.find? (a.id.getD fresh)).isSome = true
      ↔ ∃ id, a.id = some id ∧ ∃ b ∈ d.annotations, b.id = some id := by
    rw [Document.isSome_find?_iff]
    cases given : a.id with
    | none => simpa using new given
    | some id => simp
  rw [Refused, ← used, ← stop_eq, fault?, Document.annotate]
  by_cases exceeds : d.tokens.length < a.stop
  · simp [exceeds, Document.Edit.fault?]
  · by_cases inUse : (d.find? (a.id.getD fresh)).isSome = true
    · simp [inUse, exceeds, Document.Edit.fault?]
    · simp [inUse, exceeds, Document.Edit.fault?]

theorem fault?_remove : ((remove id).fault? d).isSome = true ↔ (remove id).Refused d := by
  rw [Refused, ← Document.find?_eq_none_iff, fault?, Document.remove]
  cases d.find? id <;> simp [Document.Edit.fault?]

theorem fault?_retype {type : String} :
    ((retype id type).fault? d).isSome = true ↔ (retype id type).Refused d := by
  rw [Refused, ← Document.find?_eq_none_iff, fault?, Document.retype]
  cases d.find? id with
  | none => simp [Document.Edit.fault?]
  | some old => by_cases same : old.type = type <;> simp [Document.Edit.fault?, same]

theorem fault?_setAttribute {name value : String} :
    ((setAttribute id name value).fault? d).isSome = true
      ↔ (setAttribute id name value).Refused d := by
  rw [Refused, ← Document.find?_eq_none_iff, fault?, Document.setAttribute]
  cases d.find? id <;> simp [Document.Edit.fault?]

theorem fault?_setFlag {place : Nat} {flag : String} :
    ((setFlag place flag).fault? d).isSome = true ↔ (setFlag place flag).Refused d := by
  rw [Refused, fault?, Document.setFlag]
  by_cases inside : place < d.tokens.length
  · simp [Document.Edit.fault?, inside]
  · simp [Document.Edit.fault?, inside, Nat.le_of_not_lt inside]

theorem fault?_insert {place : Nat} {text : String} :
    ((insert place text).fault? d).isSome = true ↔ (insert place text).Refused d := by
  rw [Refused, fault?, Document.insert]
  by_cases outside : d.tokens.length < place
  · simp [Document.Edit.fault?, outside]
  · by_cases nothing : (d.tokenizer.tokens text).isEmpty = true <;>
      simp [Document.Edit.fault?, outside, nothing]

/-- A range whose end is no offset exceeds the tokens as well. -/
theorem fault?_removeTokens {start count : Nat} (room : d.tokens.length < Offset.limit) :
    ((removeTokens start count).fault? d).isSome = true ↔ (removeTokens start count).Refused d := by
  have refused : (decide (d.tokens.length < start + count)
      || decide (Offset.limit ≤ start + count)) = true ↔ d.tokens.length < start + count := by
    rw [Bool.or_eq_true, decide_eq_true_iff, decide_eq_true_iff]
    omega
  rw [Refused, ← refused, fault?, Document.removeTokens]
  dsimp only
  split
  · next outside => exact iff_of_true rfl outside
  · next inside =>
    refine iff_of_false ?_ inside
    split <;> exact Bool.false_ne_true

/-- An operation fails exactly if it is to be refused. -/
theorem isSome_fault?_iff (op : Operation) (room : d.tokens.length < Offset.limit)
    (fair : op.Fair d) : (op.fault? d).isSome = true ↔ op.Refused d := by
  cases op with
  | annotate fresh a => exact fault?_annotate fair
  | remove id => exact fault?_remove
  | retype id type => exact fault?_retype
  | setAttribute id name value => exact fault?_setAttribute
  | setFlag place flag => exact fault?_setFlag
  | insert place text => exact fault?_insert
  | removeTokens start count => exact fault?_removeTokens room

/-- An operation that fails in place leaves the document and what is unread of each subscription as
they were, and it fails exactly if it is to be refused. -/
theorem attempt_of_refused (board : Board) (op : Operation)
    (room : board.document.tokens.length < Offset.limit) (fair : op.Fair board.document) :
    op.attempt board = (op.fault? board.document, op.perform board)
      ∧ ((op.attempt board).1.isSome = true → (op.attempt board).2 = board)
      ∧ ((op.attempt board).1.isSome = true ↔ op.Refused board.document) := by
  rw [attempt_eq]
  refine ⟨rfl, ?_, isSome_fault?_iff op room fair⟩
  intro failed
  obtain ⟨fault, fault_eq⟩ := Option.isSome_iff_exists.1 failed
  dsimp only
  rw [perform_eq, outcome_of_fault? fault_eq]
  rfl

/-- Every kind of operation with an argument that is not allowed on two tokens with the annotation
`X1` on them. The end of the last range is no offset. -/
def firstRefused : List Operation :=
  [.annotate "" ⟨some "X2", "t", 1, 2, .empty⟩, .annotate "" ⟨some "X1", "t", 0, 1, .empty⟩,
    .remove "X3", .retype "X3" "u", .setAttribute "X3" "n" "v", .setFlag 2 "f", .insert 3 "r",
    .removeTokens 1 2, .removeTokens 1 Offset.greatest]

theorem attempt_firstRefused :
    let board := (Board.ofDocument (.ofTokens .standard [.ofText "p", .ofText "q"])).run
      Board.firstSteps
    board.feed.unread 0 = [.added ⟨some "X1", "t", 0, 2, .empty⟩]
      ∧ (∀ op ∈ firstRefused, (op.attempt board).1.isSome = true ∧ (op.attempt board).2 = board)
      ∧ ((Operation.retype "X1" "t").attempt board).1 = none
      ∧ ((Operation.removeTokens 0 2).attempt board).1 = none := by
  intro board
  have room : board.document.tokens.length < Offset.limit := by decide +kernel
  have tokens_eq : board.document.tokens.length = 2 := by decide +kernel
  have annotations_eq : board.document.annotations = [⟨some "X1", "t", 0, 2, .empty⟩] := by
    decide +kernel
  have refused : ∀ op ∈ firstRefused, op.Fair board.document ∧ op.Refused board.document := by
    simp [firstRefused, Fair, Refused, tokens_eq, annotations_eq, Offset.limit, Offset.greatest]
  refine ⟨by decide +kernel, ?_, by decide +kernel, by decide +kernel⟩
  intro op mem
  obtain ⟨-, unchanged, fails⟩ := attempt_of_refused board op room (refused op mem).1
  have failed := fails.2 (refused op mem).2
  exact ⟨failed, unchanged failed⟩

end Operation

end SpanSearch
