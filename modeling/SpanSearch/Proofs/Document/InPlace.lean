import SpanSearch.Proofs.Document.Operation

/-! # Edits in place

An edit that is made in place looks at the document, changes tokens and annotations, and sends events
one after another. Whatever was changed or sent before it fails stays so. Made in place or all at
once, the edits of a document give the same answers and faults and lead to the same board, since each
of them looks at everything before its first change.
-/

namespace SpanSearch

namespace Board

/-- A computation that changes a board as it goes. What it has changed when it fails stays changed. -/
abbrev Program := ExceptT EditFault (StateM Board)

namespace Program

/-! ## Steps -/

def changeTokens (change : List Token → List Token) : Program Unit :=
  modify fun board =>
    { board with document := { board.document with tokens := change board.document.tokens } }

def changeAnnotations (change : List Annotation → List Annotation) : Program Unit :=
  modify fun board =>
    { board with
      document := { board.document with annotations := change board.document.annotations } }

def emit (event : Event) : Program Unit :=
  modify fun board => { board with feed := board.feed.send event }

/-- Finds the annotation with an identifier, and its place. -/
def locate (id : String) : Program (Nat × Annotation) := do
  let annotations := (← get).document.annotations
  let place := annotations.findIdx (·.id == some id)
  match annotations[place]? with
  | some a => return (place, a)
  | none => throw (.unknownIdentifier id)

/-! ## Edits -/

def annotate (fresh : String) (a : Annotation) : Program String := do
  if (← get).document.tokens.length < a.stop then throw .spanExceeds
  let id := a.id.getD fresh
  if ((← get).document.find? id).isSome then throw .identifierInUse
  let a := { a with id := some id }
  changeAnnotations (· ++ [a])
  emit (.added a)
  return id

def remove (id : String) : Program Annotation := do
  let (place, a) ← locate id
  changeAnnotations (·.eraseIdx place)
  emit (.removed a)
  return a

def retype (id type : String) : Program Unit := do
  let (place, old) ← locate id
  if old.type = type then return
  let a := { old with type := type }
  changeAnnotations (·.set place a)
  emit (.retyped old.type a)

def setAttribute (id name value : String) : Program Unit := do
  let (place, old) ← locate id
  let a := old.set name value
  changeAnnotations (·.set place a)
  emit (.changed a)

def setFlag (place : Nat) (flag : String) : Program Unit := do
  if (← get).document.tokens.length ≤ place then throw .noToken
  changeTokens (·.modify place fun token => { token with flags := token.flags.add flag })

/-- The token before the place gets its blank before anything is put in. -/
def insert (place : Nat) (text : String) : Program Nat := do
  let document := (← get).document
  if document.tokens.length < place then throw .noPlace
  let inserted := document.tokenizer.tokens text
  if inserted.isEmpty then return 0
  let inserted := if place < document.tokens.length then Token.spaceLast inserted else inserted
  if 0 < place then changeTokens (·.modify (place - 1) Token.spaced)
  changeTokens fun tokens => tokens.take place ++ inserted ++ tokens.drop place
  changeAnnotations (·.map (·.afterInsertion place inserted.length))
  emit .tokens
  return inserted.length

/-- The annotations of which nothing is left are put aside while the others move up, and are told of
afterwards. -/
def removeTokens (start count : Nat) : Program Unit := do
  let stop := start + count
  if (← get).document.tokens.length < stop || Offset.limit ≤ stop then throw .noRange
  if count = 0 then return
  changeTokens fun tokens => tokens.take start ++ tokens.drop stop
  let isLost := fun (a : Annotation) => (a.afterRemoval start stop).size == 0
  let lost := (← get).document.annotations.filter isLost
  changeAnnotations fun annotations =>
    (annotations.filter (!isLost ·)).map (·.afterRemoval start stop)
  lost.forM fun a => emit (.removed a)
  emit .tokens

/-! ## What steps do -/

/-- What a computation gives on a board, and the board after it. -/
def on (x : Program α) (board : Board) : Except EditFault α × Board := x.run.run board

section

variable {α β : Type} (board : Board)

theorem on_pure (a : α) : on (pure a) board = (.ok a, board) := rfl

theorem on_throw (fault : EditFault) :
    on (throw fault : Program α) board = (.error fault, board) := rfl

theorem on_get : on get board = (.ok board, board) := rfl

theorem on_bind (x : Program α) (f : α → Program β) :
    on (x >>= f) board =
      match on x board with
      | (.ok a, board) => on (f a) board
      | (.error fault, board) => (.error fault, board) := by
  rw [on, ExceptT.run_bind, StateT.run_bind, on]
  cases x.run.run board with
  | mk result board => cases result <;> rfl

theorem on_ite (c : Prop) [Decidable c] (x y : Program α) :
    on (if c then x else y) board = if c then on x board else on y board :=
  apply_ite (on · board) c x y

theorem on_changeTokens (change : List Token → List Token) :
    on (changeTokens change) board
      = (.ok (), ⟨{ board.document with tokens := change board.document.tokens }, board.feed⟩) :=
  rfl

theorem on_changeAnnotations (change : List Annotation → List Annotation) :
    on (changeAnnotations change) board
      = (.ok (),
          ⟨{ board.document with annotations := change board.document.annotations },
            board.feed⟩) :=
  rfl

theorem on_emit (event : Event) :
    on (emit event) board = (.ok (), ⟨board.document, board.feed.send event⟩) :=
  rfl

theorem on_emitAll (event : α → Event) (items : List α) :
    on (items.forM fun a => emit (event a)) board
      = (.ok (), ⟨board.document, (items.map event).foldl Feed.send board.feed⟩) := by
  induction items generalizing board with
  | nil => rfl
  | cons a items ih =>
    change on (emit (event a) >>= fun _ => items.forM fun a => emit (event a)) board = _
    rw [on_bind, on_emit]
    exact ih _

theorem on_locate (id : String) :
    on (locate id) board =
      match board.document.find? id with
      | some a => (.ok (board.document.annotations.findIdx (·.id == some id), a), board)
      | none => (.error (.unknownIdentifier id), board) := by
  unfold locate Document.find?
  rw [on_bind, on_get, List.find?_eq_getElem?_findIdx]
  dsimp only
  cases board.document.annotations[board.document.annotations.findIdx (·.id == some id)]? <;> rfl

end

/-! ## What edits do -/

section

variable {d : Document} {id : String} {a b : Annotation}

/-- What an edit gives, and the board after it, if the edit is made all at once: if it fails, nothing
is done. -/
def settle (board : Board) : Document.Edit α → Except EditFault α × Board
  | .ok (answer, document, events) => (.ok answer, ⟨document, events.foldl Feed.send board.feed⟩)
  | .error fault => (.error fault, board)

/-- The annotation that is found by its identifier stands at its place. -/
theorem change_found (found : d.find? id = some a) :
    d.annotations.eraseIdx (d.annotations.findIdx (·.id == some id))
        = d.annotations.eraseP (·.id == some id)
      ∧ d.annotations.set (d.annotations.findIdx (·.id == some id)) b
        = Document.replaceFirst id b d.annotations := by
  obtain ⟨front, back, split, named, others⟩ := Document.exists_place found
  have place : d.annotations.findIdx (·.id == some id) = front.length := by
    rw [split, List.findIdx_append, if_neg, List.findIdx_cons]
    · simp [named]
    · rw [List.findIdx_lt_length]
      simpa using others
  rw [place, split, Document.eraseP_eq named others, Document.replaceFirst_eq named others]
  constructor
  · rw [List.eraseIdx_append_of_length_le (Nat.le_refl _), Nat.sub_self]
    rfl
  · rw [List.set_append_right _ _ (Nat.le_refl _), Nat.sub_self]
    rfl

theorem on_annotate (board : Board) (fresh : String) (a : Annotation) :
    on (annotate fresh a) board = settle board (board.document.annotate fresh a) := by
  unfold annotate Document.annotate
  by_cases exceeds : board.document.tokens.length < a.stop
  · simp only [on_bind, on_get, on_throw, exceeds, if_true]
    rfl
  by_cases used : (board.document.find? (a.id.getD fresh)).isSome = true
  · simp only [on_bind, on_get, on_throw, exceeds, used, if_true, if_false]
    rfl
  · simp only [on_bind, on_get, on_ite, on_pure, on_changeAnnotations, on_emit, exceeds, used,
      if_false]
    rfl

theorem on_remove (board : Board) (id : String) :
    on (remove id) board = settle board (board.document.remove id) := by
  unfold remove Document.remove
  rw [on_bind, on_locate]
  cases found : board.document.find? id with
  | none => rfl
  | some a =>
    simp only [on_bind, on_pure, on_changeAnnotations, on_emit, (change_found (b := a) found).1]
    rfl

theorem on_retype (board : Board) (id type : String) :
    on (retype id type) board = settle board (board.document.retype id type) := by
  unfold retype Document.retype
  rw [on_bind, on_locate]
  cases found : board.document.find? id with
  | none => rfl
  | some old =>
    by_cases same : old.type = type
    · simp only [on_pure, same, if_true]
      rfl
    · simp only [on_bind, on_changeAnnotations, on_emit, (change_found found).2, same, if_false]
      rfl

theorem on_setAttribute (board : Board) (id name value : String) :
    on (setAttribute id name value) board
      = settle board (board.document.setAttribute id name value) := by
  unfold setAttribute Document.setAttribute
  rw [on_bind, on_locate]
  cases found : board.document.find? id with
  | none => rfl
  | some old =>
    simp only [on_bind, on_changeAnnotations, on_emit, (change_found found).2]
    rfl

theorem on_setFlag (board : Board) (place : Nat) (flag : String) :
    on (setFlag place flag) board = settle board (board.document.setFlag place flag) := by
  unfold setFlag Document.setFlag
  by_cases outside : board.document.tokens.length ≤ place
  · simp only [on_bind, on_get, on_throw, outside, Nat.not_lt.2 outside, if_true, if_false]
    rfl
  · simp only [on_bind, on_get, on_changeTokens, outside, Nat.not_le.1 outside, if_true, if_false]
    rfl

/-- The token before the place gets its blank where it stands. -/
theorem spaceLast_take {tokens : List Token} {place : Nat} (inside : place ≤ tokens.length)
    (later : 0 < place) :
    (tokens.modify (place - 1) Token.spaced).take place = Token.spaceLast (tokens.take place)
      ∧ (tokens.modify (place - 1) Token.spaced).drop place = tokens.drop place := by
  constructor
  · rw [Token.spaceLast, List.length_take, Nat.min_eq_left inside, List.take_modify]
  · rw [List.drop_modify_of_lt _ _ _ _ (by omega)]

theorem on_insert (board : Board) (place : Nat) (text : String) :
    on (insert place text) board = settle board (board.document.insert place text) := by
  unfold insert Document.insert
  by_cases outside : board.document.tokens.length < place
  · simp only [on_bind, on_get, on_throw, outside, if_true]
    rfl
  by_cases nothing : (board.document.tokenizer.tokens text).isEmpty = true
  · simp only [on_bind, on_get, on_pure, outside, nothing, if_true, if_false]
    rfl
  -- Whether anything follows is asked by the place here, and by what follows there.
  have inserted_eq : (if place < board.document.tokens.length then
        Token.spaceLast (board.document.tokenizer.tokens text)
      else board.document.tokenizer.tokens text)
      = if (board.document.tokens.drop place).isEmpty then board.document.tokenizer.tokens text
        else Token.spaceLast (board.document.tokenizer.tokens text) := by
    rcases Nat.lt_or_ge place board.document.tokens.length with before | atEnd
    · rw [if_pos before, if_neg (by simpa using before)]
    · rw [if_neg (Nat.not_lt.2 atEnd), if_pos (by simpa using atEnd)]
  by_cases later : 0 < place
  · obtain ⟨take_eq, drop_eq⟩ := spaceLast_take (Nat.not_lt.1 outside) later
    simp only [on_bind, on_get, on_pure, on_changeTokens, on_changeAnnotations, on_emit,
      if_neg outside, if_neg nothing, if_pos later, inserted_eq, take_eq, drop_eq]
    rfl
  · obtain rfl : place = 0 := by omega
    simp only [on_bind, on_get, on_ite, on_pure, on_changeTokens, on_changeAnnotations, on_emit,
      if_neg outside, if_neg nothing, inserted_eq]
    rfl

theorem on_removeTokens (board : Board) (start count : Nat) :
    on (removeTokens start count) board
      = settle board (board.document.removeTokens start count) := by
  unfold removeTokens Document.removeTokens
  by_cases outside : (decide (board.document.tokens.length < start + count)
      || decide (Offset.limit ≤ start + count)) = true
  · simp only [on_bind, on_get, on_throw, outside, if_true]
    rfl
  by_cases nothing : count = 0
  · simp only [on_bind, on_get, on_ite, on_pure, outside, if_pos nothing]
    rfl
  · simp only [on_bind, on_get, on_changeTokens, on_changeAnnotations, on_emit, on_emitAll,
      if_neg outside, if_neg nothing, settle, List.foldl_append]
    rfl

end

end Program

end Board

end SpanSearch
