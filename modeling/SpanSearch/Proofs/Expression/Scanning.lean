import SpanSearch.Expression.Parser
import SpanSearch.Proofs.Cursor

/-! # Lexemes by positions

The lexemes of an expression, read by positions in its characters. No position leaves the text, and
the lexemes or the fault are those of `Lexeme.scan`.
-/

namespace SpanSearch.Expression.Cursor

open SpanSearch.Cursor Number

/-! ## The scanner -/

/-- Reads a text from `i` on up to the closing quote. -/
def textAt (quote : Char) (cs : List Char) (i : Nat) : Option (List Char × Nat) :=
  match _here : cs[i]? with
  | none => none
  | some c =>
    if c == '\\' && cs[i + 1]? == some quote then
      (textAt quote cs (i + 2)).map fun (text, j) => (quote :: text, j)
    else if c == quote then some ([], i + 1)
    else (textAt quote cs (i + 1)).map fun (text, j) => (c :: text, j)
termination_by cs.length - i
decreasing_by
  all_goals
    obtain ⟨lt, -⟩ := List.getElem?_eq_some_iff.1 _here
    omega

/-- Reads the characters from `i` on for which `p` holds. -/
def wordAt (p : Char → Bool) (cs : List Char) (i : Nat) : Run (Cause × Nat) (List Char × Nat) := do
  let j ← advance p cs i
  let text ← slice cs i j
  .ok (text, j)

/-- Reads the quoted text, the number or the word that starts with `c` at `i`. -/
def plainAt (c : Char) (cs : List Char) (i : Nat) : Run (Cause × Nat) (Lexeme × Nat) :=
  if c == '\'' || c == '"' then
    match textAt c cs (i + 1) with
    | some (text, j) => .ok (.literal (String.ofList text), j)
    | none => fail (.unterminatedText, i)
  else if isDigit c then do
    let (digits, j) ← wordAt Lexeme.isNumberChar cs i
    match read? digits with
    | some x => .ok (.number x, j)
    | none => fail (.invalidNumber (String.ofList digits), i)
  else if Unicode.isAlphabetic c || c == '_' then do
    let (name, j) ← wordAt isNameChar cs i
    .ok (.word (String.ofList name), j)
  else fail (.unexpectedCharacter c, i)

/-- One lexeme if an equals sign follows `i`, and another one if not. -/
def orEqualAt (withEqual without : Lexeme) (cs : List Char) (i : Nat) : Lexeme × Nat :=
  if cs[i + 1]? == some '=' then (withEqual, i + 2) else (without, i + 1)

/-- Reads the lexeme that starts with `c` at `i`. -/
def lexemeAt (c : Char) (cs : List Char) (i : Nat) : Run (Cause × Nat) (Lexeme × Nat) :=
  match c with
  | '(' => .ok (.openParen, i + 1)
  | ')' => .ok (.closeParen, i + 1)
  | ',' => .ok (.comma, i + 1)
  | '=' => .ok (.comparison .equal, i + 1)
  | '!' =>
    if cs[i + 1]? == some '=' then .ok (.comparison .notEqual, i + 2) else fail (.loneBang, i)
  | '<' => .ok (orEqualAt (.comparison .lessEqual) (.comparison .less) cs i)
  | '>' => .ok (orEqualAt (.comparison .greaterEqual) (.comparison .greater) cs i)
  | '@' => do
    let (name, j) ← wordAt isNameChar cs (i + 1)
    if name.isEmpty then fail (.missingName c, i) else .ok (.attr (String.ofList name), j)
  | '$' => do
    let (name, j) ← wordAt isNameChar cs (i + 1)
    if name.isEmpty then fail (.missingName c, i) else .ok (.var (String.ofList name), j)
  | _ => plainAt c cs i

/-- Reads the lexemes from `i` on. -/
def lexemesAt (cs : List Char) : (depth : Nat) → (i : Nat) → Run (Cause × Nat) Lexemes
  | 0, i => if i < cs.length then .error .exhausted else .ok []
  | depth + 1, i =>
    if i < cs.length then do
      let c ← item cs i
      if Unicode.isSpace c then lexemesAt cs depth (i + 1)
      else do
        let (lexeme, j) ← lexemeAt c cs i
        (lexemesAt cs depth j).map ((lexeme, i) :: ·)
    else .ok []

/-! ## Its agreement with the one over lists -/

section

variable {cs : List Char} {i : Nat}

theorem textAt_related (quote : Char) :
    Option.Rel (Reached cs (i + 1)) (Lexeme.takeText quote (cs.drop i)) (textAt quote cs i) := by
  fun_induction textAt quote cs i with
  | case1 i ended =>
    rw [List.drop_eq_nil_of_le (List.getElem?_eq_none_iff.1 ended)]
    exact .none
  | case2 i c here pair ih =>
    obtain ⟨lt, rfl⟩ := List.getElem?_eq_some_iff.1 here
    simp only [Bool.and_eq_true, beq_iff_eq] at pair
    obtain ⟨backslash, next⟩ := pair
    obtain ⟨lt', rfl⟩ := List.getElem?_eq_some_iff.1 next
    rw [List.drop_eq_getElem_cons lt, List.drop_eq_getElem_cons lt', backslash]
    simp only [Lexeme.takeText, beq_self_eq_true, Bool.and_true, if_true]
    exact related_map ih fun a b reached => (reached.map _).mono (by omega)
  | case3 i c here other closes =>
    obtain ⟨lt, rfl⟩ := List.getElem?_eq_some_iff.1 here
    have closed : Lexeme.takeText quote (cs.drop i) = some ([], cs.drop (i + 1)) := by
      rw [List.drop_eq_getElem_cons lt]
      obtain ⟨next, nil⟩ | ⟨d, next, cons, -⟩ := peek_cases cs (i + 1)
      · simp [nil, Lexeme.takeText, closes]
      · simp_all [Lexeme.takeText]
    rw [closed]
    exact .some (.intro [] (Nat.le_refl _) lt)
  | case4 i c here other more ih =>
    obtain ⟨lt, rfl⟩ := List.getElem?_eq_some_iff.1 here
    have going : Lexeme.takeText quote (cs.drop i)
        = (Lexeme.takeText quote (cs.drop (i + 1))).map
            fun read => (cs[i] :: read.1, read.2) := by
      rw [List.drop_eq_getElem_cons lt]
      obtain ⟨next, nil⟩ | ⟨d, next, cons, -⟩ := peek_cases cs (i + 1)
      · simp [nil, Lexeme.takeText, more]
      · simp_all [Lexeme.takeText]
    rw [going]
    exact related_map ih fun a b reached => (reached.map _).mono (by omega)

theorem wordAt_eq (p : Char → Bool) (most : i ≤ cs.length) :
    wordAt p cs i = .ok ((cs.drop i).takeWhile p, pass p cs i) := by
  simp only [wordAt, advance_eq, slice_pass most, bind, Except.bind]

/-- The cause that is found at `i`. -/
def CausedAt (i : Nat) (cause : Cause) (fault : Cause × Nat) : Prop := fault = (cause, i)

theorem fail_agrees {α β : Type} {R : α → β → Prop} (cause : Cause) :
    Agrees (CausedAt i) R (.error cause) (fail (cause, i)) :=
  .fault rfl

/-- One character by itself. -/
theorem single_agrees (lexeme : Lexeme) (lt : i < cs.length) :
    Agrees (CausedAt i) (Reached cs (i + 1)) (.ok (lexeme, cs.drop (i + 1)))
      (.ok (lexeme, i + 1)) :=
  .ok (.intro lexeme (Nat.le_refl _) lt)

theorem marked_agrees (c : Char) (make : String → Lexeme) (lt : i < cs.length) :
    Agrees (CausedAt i) (Reached cs (i + 1))
      (if ((cs.drop (i + 1)).takeWhile isNameChar).isEmpty then .error (.missingName c)
        else .ok (make (String.ofList ((cs.drop (i + 1)).takeWhile isNameChar)),
          (cs.drop (i + 1)).dropWhile isNameChar))
      (do
        let (name, j) ← wordAt isNameChar cs (i + 1)
        if name.isEmpty then fail (.missingName c, i) else .ok (make (String.ofList name), j)) := by
  rw [wordAt_eq isNameChar lt, ← drop_pass]
  simp only [bind, Except.bind]
  split
  · exact fail_agrees _
  · exact .ok (.intro _ le_pass (pass_le lt))

theorem quoted_agrees (c : Char) :
    Agrees (CausedAt i) (Reached cs (i + 1))
      (match Lexeme.takeText c (cs.drop (i + 1)) with
        | some (text, rest) => .ok (Lexeme.literal (String.ofList text), rest)
        | none => .error .unterminatedText)
      (match textAt c cs (i + 1) with
        | some (text, j) => .ok (Lexeme.literal (String.ofList text), j)
        | none => fail (.unterminatedText, i)) := by
  obtain ⟨failed, failed'⟩ | ⟨text, j, found, found', least, most⟩ :=
    related_cases (@textAt_related cs (i + 1) c)
  · rw [failed, failed']
    exact fail_agrees _
  · rw [found, found']
    exact .ok (.intro (Lexeme.literal (String.ofList text)) (by omega) most)

/-- A lexeme of the characters for which `p` holds, from its first one on. -/
theorem wordAt_here {p : Char → Bool} (lt : i < cs.length) (holds : p cs[i] = true) :
    wordAt p cs i = .ok (cs[i] :: (cs.drop (i + 1)).takeWhile p, pass p cs (i + 1)) := by
  rw [wordAt_eq p (Nat.le_of_lt lt), List.drop_eq_getElem_cons lt, List.takeWhile_cons,
    if_pos holds, pass_succ (List.getElem?_eq_getElem lt) holds]

theorem isNameChar_of_starts {c : Char} (starts : (Unicode.isAlphabetic c || c == '_') = true) :
    isNameChar c = true := by
  simp only [isNameChar, Unicode.isAlphanumeric]
  grind

theorem plain_agrees (lt : i < cs.length) :
    Agrees (CausedAt i) (Reached cs (i + 1))
      (if cs[i] == '\'' || cs[i] == '"' then
        match Lexeme.takeText cs[i] (cs.drop (i + 1)) with
        | some (text, rest) => .ok (Lexeme.literal (String.ofList text), rest)
        | none => .error .unterminatedText
      else if isDigit cs[i] then
        match read? (cs[i] :: (cs.drop (i + 1)).takeWhile Lexeme.isNumberChar) with
        | some x => .ok (.number x, (cs.drop (i + 1)).dropWhile Lexeme.isNumberChar)
        | none => .error (.invalidNumber
            (String.ofList (cs[i] :: (cs.drop (i + 1)).takeWhile Lexeme.isNumberChar)))
      else if Unicode.isAlphabetic cs[i] || cs[i] == '_' then
        .ok (.word (String.ofList (cs[i] :: (cs.drop (i + 1)).takeWhile isNameChar)),
          (cs.drop (i + 1)).dropWhile isNameChar)
      else .error (.unexpectedCharacter cs[i]))
      (plainAt cs[i] cs i) := by
  unfold plainAt
  split
  · exact quoted_agrees cs[i]
  split
  · next digit =>
    have holds : Lexeme.isNumberChar cs[i] = true := by simp [Lexeme.isNumberChar, digit]
    rw [wordAt_here lt holds, ← drop_pass]
    simp only [bind, Except.bind]
    cases read? (cs[i] :: (cs.drop (i + 1)).takeWhile Lexeme.isNumberChar) with
    | none => exact fail_agrees _
    | some x => exact .ok (.intro (Lexeme.number x) le_pass (pass_le lt))
  split
  · next starts =>
    rw [wordAt_here lt (isNameChar_of_starts starts), ← drop_pass]
    exact .ok (.intro _ le_pass (pass_le lt))
  · exact fail_agrees _

theorem orEqualAt_reached (withEqual without : Lexeme) (lt : i < cs.length) :
    Reached cs (i + 1)
      (match cs.drop (i + 1) with
        | '=' :: rest => (withEqual, rest)
        | _ => (without, cs.drop (i + 1)))
      (orEqualAt withEqual without cs i) := by
  unfold orEqualAt
  obtain ⟨get, cons, more⟩ | ⟨get, other⟩ := find_cases cs '=' (i + 1)
  · simp only [cons, get, beq_self_eq_true, if_true]
    exact .intro _ (Nat.le_succ _) more
  · simp only [get, Bool.false_eq_true, if_false]
    exact .intro _ (Nat.le_refl _) lt

theorem bang_agrees (cs : List Char) (i : Nat) :
    Agrees (CausedAt i) (Reached cs (i + 1))
      (match cs.drop (i + 1) with
        | '=' :: rest => .ok (Lexeme.comparison .notEqual, rest)
        | _ => .error .loneBang)
      (if cs[i + 1]? == some '=' then .ok (.comparison .notEqual, i + 2)
        else fail (.loneBang, i)) := by
  obtain ⟨get, cons, more⟩ | ⟨get, other⟩ := find_cases cs '=' (i + 1)
  · simp only [cons, get, beq_self_eq_true, if_true]
    exact .ok (.intro _ (Nat.le_succ _) more)
  · simp only [get, Bool.false_eq_true, if_false]
    exact fail_agrees _

theorem lexemeAt_agrees (lt : i < cs.length) :
    Agrees (CausedAt i) (Reached cs (i + 1)) (Lexeme.take cs[i] (cs.drop (i + 1)))
      (lexemeAt cs[i] cs i) := by
  have plain := plain_agrees lt
  generalize cs[i] = c at plain
  by_cases fixed : c ∈ ['(', ')', ',', '=', '!', '<', '>', '@', '$']
  · simp only [List.mem_cons, List.not_mem_nil, or_false] at fixed
    rcases fixed with rfl | rfl | rfl | rfl | rfl | rfl | rfl | rfl | rfl
    · exact single_agrees _ lt
    · exact single_agrees _ lt
    · exact single_agrees _ lt
    · exact single_agrees _ lt
    · exact bang_agrees cs i
    · exact .ok (orEqualAt_reached _ _ lt)
    · exact .ok (orEqualAt_reached _ _ lt)
    · exact marked_agrees '@' Lexeme.attr lt
    · exact marked_agrees '$' Lexeme.var lt
  · have right : lexemeAt c cs i = plainAt c cs i := by
      unfold lexemeAt
      split <;> first | rfl | simp at fixed
    rw [right]
    unfold Lexeme.take
    split
    all_goals
      split
      all_goals first | exact plain | simp at fixed

/-- The same fault, at `stop` or before. -/
def Within (stop : Nat) (fault fault' : Cause × Nat) : Prop := fault' = fault ∧ fault.2 ≤ stop

/-- The same lexemes, each at `stop` or before. -/
def Placed (stop : Nat) (ls ls' : Lexemes) : Prop := ls' = ls ∧ ∀ l ∈ ls, l.2 ≤ stop

theorem lexemesAt_end (ge : cs.length ≤ i) (depth : Nat) :
    Agrees (Within cs.length) (Placed cs.length) (Lexeme.scan i (cs.drop i))
      (lexemesAt cs depth i) := by
  have ended : lexemesAt cs depth i = .ok [] := by
    cases depth <;> rw [lexemesAt, if_neg (Nat.not_lt_of_le ge)]
  rw [List.drop_eq_nil_of_le ge, Lexeme.scan_nil, ended]
  exact .ok ⟨rfl, by simp⟩

theorem lexemesAt_agrees (depth : Nat) (enough : cs.length ≤ i + depth) :
    Agrees (Within cs.length) (Placed cs.length) (Lexeme.scan i (cs.drop i))
      (lexemesAt cs depth i) := by
  rcases Nat.lt_or_ge i cs.length with lt | ge
  swap
  · exact lexemesAt_end ge depth
  induction depth generalizing i with
  | zero => omega
  | succ depth ih =>
    have next (j : Nat) (le : i + 1 ≤ j) :
        Agrees (Within cs.length) (Placed cs.length) (Lexeme.scan j (cs.drop j))
          (lexemesAt cs depth j) := by
      rcases Nat.lt_or_ge j cs.length with lt | ge
      · exact ih (by omega) lt
      · exact lexemesAt_end ge depth
    rw [List.drop_eq_getElem_cons lt, Lexeme.scan_cons, lexemesAt, if_pos lt,
      item_eq (List.getElem?_eq_getElem lt)]
    simp only [bind, Except.bind]
    split
    · exact next _ (Nat.le_refl _)
    have agrees := lexemeAt_agrees lt
    generalize Lexeme.take cs[i] (cs.drop (i + 1)) = x at *
    generalize lexemeAt cs[i] cs i = y at *
    cases agrees with
    | fault caused =>
      cases caused
      exact .fault ⟨rfl, Nat.le_of_lt lt⟩
    | ok reached =>
      cases reached with
      | @intro lexeme j least most =>
        -- Over lists the next offset is found by what the lexeme took off.
        have place : i + ((cs.drop (i + 1)).length + 1 - (cs.drop j).length) = j := by
          simp only [List.length_drop]
          omega
        simp only [place]
        apply (next j least).map
        rintro ls ls' ⟨rfl, placed⟩
        refine ⟨rfl, ?_⟩
        simpa [Nat.le_of_lt lt] using placed

end

end SpanSearch.Expression.Cursor
