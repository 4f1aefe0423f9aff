import SpanSearch.Proofs.Cursor
import SpanSearch.Proofs.Layout.Parts

/-! # Segments by positions

The scanner of the layouts by positions in the characters of a text. It goes on as long as its
position lies within the text, whatever the text is, and each turn of a loop takes it further. Here
the loops have a number of turns granted to them. As many turns as there are characters are enough,
no access is out of range, and the segments are those that the scanner cuts off from the front.
-/

namespace SpanSearch.Layout.Cursor

open SpanSearch.Cursor Unicode Pattern

section

variable {ε : Type} (cs : List Char)

/-- Looks for the closing delimiter from `j` on, and gives the place behind it. `depth` counts the
delimiters that are open. -/
def closeAt (opening closing : Char) (nested : Bool) (turns depth : Nat) (quote : Option Char)
    (j : Nat) : Run ε Nat :=
  if j < cs.length then
    match turns with
    | 0 => .error .exhausted
    | turns + 1 => do
      let c ← item cs j
      if c == '\\' then closeAt opening closing nested turns depth quote (j + 2)
      else
        match quote with
        | some q =>
          closeAt opening closing nested turns depth (if c == q then none else some q) (j + 1)
        | none =>
          if nested && isQuote c then closeAt opening closing nested turns depth (some c) (j + 1)
          else if c == closing && (opening == closing || depth == 1) then .ok (j + 1)
          else if c == closing then closeAt opening closing nested turns (depth - 1) none (j + 1)
          else if c == opening then closeAt opening closing nested turns (depth + 1) none (j + 1)
          else closeAt opening closing nested turns depth none (j + 1)
  else .ok cs.length

/-- The place behind the delimiter that closes the one at `i`. -/
def delimitedAt (closing : Char) (nested : Bool) (i : Nat) : Run ε Nat := do
  let opening ← item cs i
  closeAt cs opening closing nested cs.length 1 none (i + 1)

/-- The segments from `i` on. -/
def segmentsAt (turns i : Nat) : Run ε (List Segment) :=
  if i < cs.length then
    match turns with
    | 0 => .error .exhausted
    | turns + 1 => do
      let verbatim (j : Nat) : Run ε (List Segment) := do
        let text ← slice cs i (min j cs.length)
        let later ← segmentsAt turns (min j cs.length)
        .ok (.verbatim text :: later)
      let c ← item cs i
      if isSpace c then do
        let j ← advance isSpace cs i
        let later ← segmentsAt turns j
        .ok (.space :: later)
      else if c == '@' && cs[i + 1]? == some '(' then do
        verbatim (← delimitedAt cs ')' true (i + 1))
      else
        match closing? c with
        | some (closing, nested) => do verbatim (← delimitedAt cs closing nested i)
        | none => do
          let later ← segmentsAt turns (i + 1)
          .ok (.mark c :: later)
  else .ok []

end

section

variable {ε : Type} {cs rest : List Char} {opening closing c : Char} {nested : Bool}
  {turns depth i j : Nat} {quote : Option Char}

/-- One character further on, one character less is left. -/
theorem ok_place_cons (j : Nat) (c : Char) (text : List Char) :
    (.ok (j + 1 + text.length) : Run ε Nat) = .ok (j + (c :: text).length) := by
  rw [List.length_cons, Nat.add_assoc, Nat.add_comm 1]

/-- What is split off ends where the delimiter is found, however deep it stands. -/
theorem closeAt_eq (alike : opening = closing → depth = 0) (most : j ≤ cs.length)
    (enough : cs.length ≤ j + turns) :
    closeAt (ε := ε) cs opening closing nested turns (depth + 1) quote j
      = .ok (j + (splitDelimited opening closing nested depth quote (cs.drop j)).1.length) := by
  induction turns generalizing depth quote j with
  | zero =>
    obtain rfl : j = cs.length := by omega
    rw [closeAt.eq_def, if_neg (Nat.lt_irrefl _), List.drop_length, splitDelimited]
    rfl
  | succ turns ih =>
    by_cases lt : j < cs.length
    · have next {depth quote} (alike : opening = closing → depth = 0) :=
        @ih depth (j + 1) quote alike lt (by omega)
      rw [closeAt, if_pos lt, item_eq (List.getElem?_eq_getElem lt), ok_bind,
        List.drop_eq_getElem_cons lt]
      generalize cs[j] = c
      by_cases backslash : c = '\\'
      · subst backslash
        rw [if_pos (beq_self_eq_true _)]
        by_cases last : j + 1 < cs.length
        · have second : cs.drop (j + 1) = cs[j + 1] :: cs.drop (j + 2) :=
            List.drop_eq_getElem_cons last
          rw [@ih depth (j + 2) quote alike last (by omega), second, split_pair]
          simp only [List.length_cons, Except.ok.injEq]
          omega
        · rw [closeAt.eq_def, if_neg (by omega), List.drop_eq_nil_of_le (by omega), splitDelimited]
          simp only [List.length_singleton, Except.ok.injEq]
          omega
      · rw [if_neg (by simpa using backslash)]
        cases quote with
        | some q =>
          dsimp only
          rw [next alike, split_quoted backslash]
          exact ok_place_cons ..
        | none =>
          dsimp only
          rw [split_char backslash]
          split
          · rw [next alike]
            exact ok_place_cons ..
          · by_cases closes : c = closing
            · subst closes
              simp only [beq_self_eq_true, Bool.true_and, if_true]
              cases depth with
              | zero => simp
              | succ depth =>
                have differ : opening ≠ c := fun same => Nat.succ_ne_zero depth (alike same)
                rw [if_neg (by simpa using differ), Nat.add_sub_cancel,
                  next fun same => absurd same differ]
                exact ok_place_cons ..
            · have other : (c == closing) = false := by simpa using closes
              simp only [other, Bool.false_and, Bool.false_eq_true, if_false]
              split
              · next opens =>
                rw [next fun same => absurd ((eq_of_beq opens).trans same) closes]
                exact ok_place_cons ..
              · rw [next alike]
                exact ok_place_cons ..
    · obtain rfl : j = cs.length := by omega
      rw [closeAt, if_neg lt, List.drop_length, splitDelimited]
      rfl

theorem delimitedAt_eq (starts : cs.drop i = opening :: rest) :
    delimitedAt (ε := ε) cs closing nested i
      = .ok (i + 1 + (splitDelimited opening closing nested 0 none rest).1.length) := by
  obtain ⟨-, nil⟩ | ⟨x, get, cons, lt⟩ := peek_cases cs i
  · cases nil.symm.trans starts
  · obtain ⟨rfl, rfl⟩ := List.cons.inj (cons.symm.trans starts)
    rw [delimitedAt, item_eq get, ok_bind, closeAt_eq (fun _ => rfl) lt (by omega)]

/-- The text from one place up to the end of its first part. -/
theorem slice_of_append {text : List Char} (most : i ≤ cs.length) (whole : cs.drop i = text ++ rest) :
    slice (ε := ε) cs i (i + text.length) = .ok text ∧ cs.drop (i + text.length) = rest := by
  have length := congrArg List.length whole
  rw [List.length_drop, List.length_append] at length
  constructor
  · rw [slice_eq (by omega) (by omega), whole, Nat.add_sub_cancel_left, List.take_left]
  · rw [← List.drop_drop, whole, List.drop_left]

/-- As many turns as there are characters are enough for the scanner. -/
theorem segmentsAt_eq (most : i ≤ cs.length) (enough : cs.length ≤ i + turns) :
    segmentsAt (ε := ε) cs turns i = .ok (segments (cs.drop i)) := by
  induction turns generalizing i with
  | zero =>
    obtain rfl : i = cs.length := by omega
    rw [segmentsAt.eq_def, if_neg (Nat.lt_irrefl _), List.drop_length, segments_nil]
  | succ turns ih =>
    obtain ⟨-, nil⟩ | ⟨c, get, cons, lt⟩ := peek_cases cs i
    · have ended := List.drop_eq_nil_iff.1 nil
      rw [segmentsAt, if_neg (by omega), nil, segments_nil]
    · -- a text between delimiters is sliced out, and the scanner goes on behind it
      have verbatim {text after : List Char} {j : Nat} (whole : cs.drop i = text ++ after)
          (filled : text ≠ []) (place : j = i + text.length) :
          (do let part ← slice (ε := ε) cs i (min j cs.length)
              let later ← segmentsAt cs turns (min j cs.length)
              .ok (.verbatim part :: later) : Run ε (List Segment))
            = .ok (.verbatim text :: segments after) := by
        subst place
        have length := congrArg List.length whole
        rw [List.length_drop, List.length_append] at length
        have some := List.length_pos_iff.2 filled
        obtain ⟨cut, behind⟩ := @slice_of_append ε cs after i text most whole
        rw [Nat.min_eq_left (by omega), cut, ok_bind, ih (by omega) (by omega), ok_bind, behind]
      rw [segmentsAt, if_pos lt, item_eq get, ok_bind]
      dsimp only
      by_cases space : isSpace c = true
      · have first := @pass_succ _ isSpace cs i c get space
        have further : i + 1 ≤ pass isSpace cs i := first ▸ le_pass
        rw [if_pos space, advance_eq, ok_bind, ih (pass_le most) (by omega), ok_bind, cons,
          segments_space space, trimStart, ← drop_pass, ← first]
      · rw [if_neg space]
        rw [Bool.not_eq_true] at space
        by_cases scope : c = '@' ∧ cs[i + 1]? = some '('
        · obtain ⟨rfl, next⟩ := scope
          obtain ⟨lt', -⟩ := List.getElem?_eq_some_iff.1 next
          have starts : cs.drop (i + 1) = '(' :: cs.drop (i + 1 + 1) := by
            obtain ⟨none, -⟩ | ⟨x, get', cons', -⟩ := peek_cases cs (i + 1)
            · cases none.symm.trans next
            · cases get'.symm.trans next
              exact cons'
          have parts := (@splitDelimited_parts '(' ')' true 0 none unquoted
            (cs.drop (i + 1 + 1))).1
          rw [if_pos (by simp [next]), delimitedAt_eq starts, ok_bind, cons, starts,
            segments_scope rfl]
          rw [starts, ← parts] at cons
          refine @verbatim ('@' :: '(' :: _) _ _ cons (List.cons_ne_nil _ _) ?_
          simp only [List.length_cons]
          omega
        · have notScope : c = '@' → (cs.drop (i + 1)).head? ≠ some '(' := by
            rw [List.head?_drop]
            exact fun same next => scope ⟨same, next⟩
          rw [if_neg (by simpa using scope), cons, segments_cons notScope, if_neg (by simp [space])]
          cases opens : closing? c with
          | none =>
            dsimp only
            rw [ih lt (by omega), ok_bind]
          | some kind =>
            have parts := (@splitDelimited_parts c kind.1 kind.2 0 none unquoted
              (cs.drop (i + 1))).1
            dsimp only
            rw [delimitedAt_eq cons, ok_bind]
            rw [← parts] at cons
            refine @verbatim (c :: _) _ _ cons (List.cons_ne_nil _ _) ?_
            simp only [List.length_cons]
            omega

end

end SpanSearch.Layout.Cursor
