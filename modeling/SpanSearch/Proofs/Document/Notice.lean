import SpanSearch.Proofs.Document.Delivery

/-! # What subscribers notice

Whoever has subscribed to a document and not cancelled gets an event of each operation that changes
its tokens or annotations, unless all that changes is a flag of a token. A flag that is new to its
token is set without an event.
-/

namespace SpanSearch

/-! ## Flags -/

section

variable {α : Type} {key : String} {value : α} {entries : List (String × α)}

/-- A key that is set to the value it has leaves the entries as they are. -/
theorem Table.insertEntry_eq_self (ascending : Ascending entries)
    (held : entries.lookup key = some value) : insertEntry key value entries = entries := by
  induction entries with
  | nil => cases held
  | cons entry rest ih =>
    obtain ⟨k, v⟩ := entry
    obtain ⟨above, ascending⟩ := List.pairwise_cons.1 ascending
    rw [lookup_cons] at held
    by_cases same : key = k
    · subst same
      simp only [if_true, Option.some.injEq] at held
      simp [insertEntry, held]
    · rw [if_neg same] at held
      obtain ⟨front, back, split, -⟩ := List.lookup_eq_some_iff.1 held
      have less : k < key := above (key, value) (by simp [split])
      simp [insertEntry, same, String.lt_asymm less, ih ascending held]

theorem TextSet.add_eq_self_iff {set : TextSet} {text : String} :
    set.add text = set ↔ set.contains text = true := by
  constructor
  · intro same
    rw [← same, TextSet.add, Table.contains, Table.get?_insert, if_pos rfl]
    rfl
  · intro held
    obtain ⟨value, held⟩ := Option.isSome_iff_exists.1 held
    obtain ⟨entries, ascending⟩ := set
    exact Table.mk.injEq .. ▸ Table.insertEntry_eq_self ascending held

end

/-- A list in which one item is changed is the same if the item stays as it is. -/
theorem modify_eq_self_iff {α : Type} {change : α → α} {items : List α} {place : Nat} :
    items.modify place change = items ↔ ∀ item, items[place]? = some item → change item = item := by
  constructor
  · intro same item here
    have changed := List.getElem?_modify_eq change place items
    rw [same, here] at changed
    exact (Option.some.inj changed).symm
  · intro stays
    apply List.ext_getElem?
    intro i
    rw [List.getElem?_modify]
    split
    · next here =>
      subst here
      cases found : items[place]? with
      | none => rfl
      | some item => simp [stays item found]
    · simp

namespace Operation

variable {d : Document} {op : Operation} {place : Nat} {flag : String}

/-- Whether an operation sets a flag on a token that does not have it. -/
def Flags (d : Document) : Operation → Prop
  | setFlag place flag => ∃ token, d.tokens[place]? = some token ∧ token.flags.contains flag = false
  | _ => False

/-- Setting a flag has no events and changes nothing but the flags of the token. -/
theorem outcome_setFlag (d : Document) (place : Nat) (flag : String) :
    (setFlag place flag).outcome d
      = ({ d with
          tokens := d.tokens.modify place fun token =>
            { token with flags := token.flags.add flag } }, []) := by
  simp only [outcome, Document.setFlag]
  split
  · rfl
  · next outside =>
    rw [List.modify_eq_self (Nat.not_lt.1 outside)]
    rfl

/-- The flag is a change just if it is new to the token. -/
theorem outcome_setFlag_eq_iff :
    ((setFlag place flag).outcome d).1.tokens = d.tokens ↔ ¬ (setFlag place flag).Flags d := by
  have flagged (token : Token) :
      { token with flags := token.flags.add flag } = token ↔ token.flags.contains flag = true := by
    rw [← TextSet.add_eq_self_iff]
    constructor
    · intro same
      exact congrArg Token.flags same
    · intro same
      rw [same]
  simp only [outcome_setFlag, modify_eq_self_iff, flagged, Flags, not_exists, not_and,
    Bool.not_eq_false]

/-! ## Operations without events -/

/-- An operation that has no events changes at most the flags of a token. -/
theorem outcome_of_silent (silent : (op.outcome d).2 = []) :
    (op.outcome d).1 = d ∨ ∃ place flag, op = setFlag place flag := by
  cases op with
  | annotate fresh a =>
    revert silent
    simp only [outcome, Document.annotate]
    split
    · exact fun _ => .inl rfl
    · split
      · exact fun _ => .inl rfl
      · intro silent
        cases silent
  | remove id =>
    revert silent
    simp only [outcome, Document.remove]
    split
    · exact fun _ => .inl rfl
    · intro silent
      cases silent
  | retype id type =>
    revert silent
    simp only [outcome, Document.retype]
    split
    · exact fun _ => .inl rfl
    · split
      · exact fun _ => .inl rfl
      · intro silent
        cases silent
  | setAttribute id name value =>
    revert silent
    simp only [outcome, Document.setAttribute]
    split
    · exact fun _ => .inl rfl
    · intro silent
      cases silent
  | setFlag place flag => exact .inr ⟨place, flag, rfl⟩
  | insert place text =>
    revert silent
    simp only [outcome, Document.insert]
    split
    · exact fun _ => .inl rfl
    · split
      · exact fun _ => .inl rfl
      · intro silent
        cases silent
  | removeTokens start count =>
    revert silent
    simp only [outcome, Document.removeTokens]
    split
    · exact fun _ => .inl rfl
    · split
      · exact fun _ => .inl rfl
      · simp [Document.after]

end Operation

/-! ## Notices -/

/-- Whether the tokens or the annotations of two documents differ. -/
def Document.Differs (d e : Document) : Prop :=
  d.tokens ≠ e.tokens ∨ d.annotations ≠ e.annotations

/-- The tokens and the annotations of a document without the flags of the tokens. -/
def Document.unflagged (d : Document) : List (String × String) × List Annotation :=
  (d.tokens.map fun token => (token.text, token.space), d.annotations)

namespace Operation

variable {board : Board} {number : Nat} {place : Nat} {flag : String}

/-- Whether a subscriber gets an event of an operation at least. -/
def Tells (board : Board) (number : Nat) (op : Operation) : Prop :=
  ∃ event events, (op.perform board).feed.unread number
    = board.feed.unread number ++ event :: events

/-- Whether a subscriber gets an event of an operation if it changes the document. -/
def Noticed (board : Board) (number : Nat) (op : Operation) : Prop :=
  (op.perform board).document.Differs board.document → op.Tells board number

/-- A subscriber who has not cancelled is told of just the operations that have events. -/
theorem tells_iff (live : board.feed.Live number) (op : Operation) :
    op.Tells board number ↔ (op.outcome board.document).2 ≠ [] := by
  simp only [Tells, feed_perform, live.unread_sendAll, List.append_cancel_left_eq]
  constructor
  · rintro ⟨event, events, same⟩
    simp [same]
  · intro events
    exact List.exists_cons_of_ne_nil events

theorem unflagged_setFlag (d : Document) (place : Nat) (flag : String) :
    ((setFlag place flag).outcome d).1.unflagged = d.unflagged := by
  simp only [outcome_setFlag, Document.unflagged, Prod.mk.injEq, and_true]
  apply List.ext_getElem?
  intro i
  simp only [List.getElem?_map, List.getElem?_modify]
  split
  · cases d.tokens[i]? <;> rfl
  · cases d.tokens[i]? <;> rfl

/-- A subscriber who has not cancelled notices each operation that changes the document, unless it
sets a flag that is new to its token. Whatever an operation changes besides flags, the subscriber gets
an event of it. -/
theorem noticed_iff_not_flags (live : board.feed.Live number) (op : Operation) :
    (op.Noticed board number ↔ ¬ op.Flags board.document)
      ∧ ((op.perform board).document.unflagged ≠ board.document.unflagged →
        op.Tells board number) := by
  rw [Noticed, tells_iff live, document_perform]
  constructor
  · constructor
    · intro noticed flags
      cases op with
      | setFlag place flag =>
        have changed := mt outcome_setFlag_eq_iff.1 (not_not.2 flags)
        exact noticed (.inl changed) (by rw [outcome_setFlag])
      | _ => exact flags
    · intro plain differs silent
      rcases outcome_of_silent silent with same | ⟨place, flag, rfl⟩
      · rw [same] at differs
        exact differs.elim (· rfl) (· rfl)
      · rcases differs with tokens | annotations
        · exact tokens (outcome_setFlag_eq_iff.2 plain)
        · rw [outcome_setFlag] at annotations
          exact annotations rfl
  · intro differs silent
    rcases outcome_of_silent silent with same | ⟨place, flag, rfl⟩
    · exact differs (by rw [same])
    · exact differs (unflagged_setFlag ..)

/-- Two tokens with an annotation on them that one subscriber has been told of. -/
def firstBoard : Board :=
  (annotate "" ⟨some "X1", "t", 0, 2, .empty⟩).perform
    ((Board.ofDocument (.ofTokens .standard [.ofText "p", .ofText "q"])).step .subscribe)

theorem live_firstBoard : firstBoard.feed.Live 0 := by
  rw [firstBoard, feed_perform]
  exact Feed.numbered_empty.live_subscribe.sendAll _

/-- The subscriber gets to know that the tokens go, and the annotation with them. -/
theorem noticed_removal :
    firstBoard.feed.Live 0
      ∧ ((removeTokens 0 2).perform firstBoard).document.Differs firstBoard.document
      ∧ (removeTokens 0 2).Tells firstBoard 0 := by
  have differs : ((removeTokens 0 2).perform firstBoard).document.Differs firstBoard.document :=
    .inl (by decide +kernel)
  have noticed := (noticed_iff_not_flags live_firstBoard (removeTokens 0 2)).1.2 nofun
  exact ⟨live_firstBoard, differs, noticed differs⟩

/-- A flag is set on a token, and the subscriber has nothing more to read than before. -/
theorem not_noticed_flag :
    firstBoard.feed.Live 0 ∧ ¬ (setFlag 1 "f").Noticed firstBoard 0 := by
  have unread : ((setFlag 1 "f").perform firstBoard).feed.unread 0 = firstBoard.feed.unread 0 := by
    decide +kernel
  refine ⟨live_firstBoard, ?_⟩
  intro noticed
  obtain ⟨event, events, more⟩ := noticed (.inl (by decide +kernel))
  rw [unread] at more
  simp at more

end Operation

end SpanSearch
