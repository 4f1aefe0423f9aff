import SpanSearch.Proofs.Expression.Scanning

/-! # Terms by positions

The parser of expressions by positions in the lexemes. Its recursion stops where it goes deeper than
the fuel that `Term.ofLexemes` grants, and it never does: the term or the fault is that of
`Term.parse`, and a fault lies within the text.
-/

namespace SpanSearch.Expression.Cursor

open SpanSearch.Cursor

/-! ## The parser -/

section

variable (stop : Nat) (ls : Lexemes)

/-- The offset of the lexeme at a place, or that of the end. -/
def offsetAt (i : Nat) : Nat := (ls[i]?.map (·.2)).getD stop

/-- Whether a place has this word. -/
def hasWord (text : String) (i : Nat) : Bool := ls[i]?.any (·.1 == .word text)

mutual

/-- Parses a disjunction. -/
def eitherAt : (depth : Nat) → (i : Nat) → Run (Cause × Nat) (Term × Nat)
  | 0, _ => .error .exhausted
  | depth + 1, i => do
    let (left, j) ← bothAt depth i
    moreEitherAt depth left j

/-- Parses what follows the first part of a disjunction. -/
def moreEitherAt : (depth : Nat) → Term → (i : Nat) → Run (Cause × Nat) (Term × Nat)
  | 0, left, i => if hasWord ls "or" i then .error .exhausted else .ok (left, i)
  | depth + 1, left, i =>
    if hasWord ls "or" i then do
      let (right, j) ← bothAt depth (i + 1)
      moreEitherAt depth (.either left right) j
    else .ok (left, i)

/-- Parses a conjunction. -/
def bothAt : (depth : Nat) → (i : Nat) → Run (Cause × Nat) (Term × Nat)
  | 0, _ => .error .exhausted
  | depth + 1, i => do
    let (left, j) ← compareAt depth i
    moreBothAt depth left j

/-- Parses what follows the first part of a conjunction. -/
def moreBothAt : (depth : Nat) → Term → (i : Nat) → Run (Cause × Nat) (Term × Nat)
  | 0, left, i => if hasWord ls "and" i then .error .exhausted else .ok (left, i)
  | depth + 1, left, i =>
    if hasWord ls "and" i then do
      let (right, j) ← compareAt depth (i + 1)
      moreBothAt depth (.both left right) j
    else .ok (left, i)

/-- Parses one comparison, or a primary term by itself. -/
def compareAt : (depth : Nat) → (i : Nat) → Run (Cause × Nat) (Term × Nat)
  | 0, _ => .error .exhausted
  | depth + 1, i => do
    let (left, j) ← primaryAt depth i
    match ls[j]? with
    | some (.comparison op, _) =>
      let (right, k) ← primaryAt depth (j + 1)
      .ok (.compare op left right, k)
    | _ => .ok (left, j)

/-- Parses a constant, an attribute, a variable, a term in parentheses or a call. -/
def primaryAt : (depth : Nat) → (i : Nat) → Run (Cause × Nat) (Term × Nat)
  | 0, _ => .error .exhausted
  | depth + 1, i =>
    match ls[i]? with
    | none => fail (.unexpectedEnd, stop)
    | some (lexeme, offset) =>
      match lexeme with
      | .literal text => .ok (.constant (.text text), i + 1)
      | .number x => .ok (.constant (.number x), i + 1)
      | .attr name => .ok (.attr name, i + 1)
      | .var name =>
        match Variable.ofName? name with
        | some v => .ok (.var v, i + 1)
        | none => fail (.unknownVariable name, offset)
      | .openParen => do
        let (inner, j) ← eitherAt depth (i + 1)
        match ls[j]? with
        | some (.closeParen, _) => .ok (inner, j + 1)
        | _ => fail (.unbalanced, offset)
      | .word name =>
        match Function.ofName? name, ls[i + 1]? with
        | none, _ => fail (.unknownFunction name, offset)
        | some f, some (.openParen, _) => do
          let (arguments, j) ← argumentsAt name depth (i + 2)
          if f.takes arguments.length then .ok (.call f arguments, j)
          else fail (.wrongCount name arguments.length, offset)
        | some _, _ => fail (.missingOpen name, offset)
      | lexeme => fail (.unexpected lexeme, offset)

/-- Parses the arguments of a call after the opening parenthesis, and the closing one. -/
def argumentsAt (name : String) : (depth : Nat) → (i : Nat) → Run (Cause × Nat) (List Term × Nat)
  | 0, _ => .error .exhausted
  | depth + 1, i =>
    match ls[i]? with
    | some (.closeParen, _) => .ok ([], i + 1)
    | _ => moreArgumentsAt name depth i

/-- Parses one argument or several, and the closing parenthesis. -/
def moreArgumentsAt (name : String) :
    (depth : Nat) → (i : Nat) → Run (Cause × Nat) (List Term × Nat)
  | 0, _ => .error .exhausted
  | depth + 1, i => do
    let (first, j) ← eitherAt depth i
    match ls[j]? with
    | some (.closeParen, _) => .ok ([first], j + 1)
    | some (.comma, _) =>
      let (others, k) ← moreArgumentsAt name depth (j + 1)
      .ok (first :: others, k)
    | _ => fail (.missingSeparator name, offsetAt stop ls (j + 1))

end

end

/-- The term that a text writes, by positions. -/
def parse (source : String) : Run (Cause × Nat) Term := do
  let cs := source.toList
  let ls ← lexemesAt cs cs.length 0
  let (term, i) ← eitherAt cs.length ls (8 * (ls.length + 1)) 0
  match ls[i]? with
  | some (lexeme, offset) => fail (.trailing lexeme, offset)
  | none => .ok term

/-! ## Its agreement with the one over lists -/

/-- With the depth that is left, each parser reads the same term by positions as over lists. Each
lexeme that a parser takes stands for eight calls. -/
structure Steps (stop : Nat) (ls : Lexemes) (depth : Nat) : Prop where
  either {i : Nat} : 8 * (ls.length - i) + 4 ≤ depth →
    Agrees (Within stop) (Reached ls (i + 1)) (parseEither stop depth (ls.drop i))
      (eitherAt stop ls depth i)
  moreEither (left : Term) {i : Nat} : i ≤ ls.length → 8 * (ls.length - i) ≤ depth →
    Agrees (Within stop) (Reached ls i) (moreEither stop depth left (ls.drop i))
      (moreEitherAt stop ls depth left i)
  both {i : Nat} : 8 * (ls.length - i) + 3 ≤ depth →
    Agrees (Within stop) (Reached ls (i + 1)) (parseBoth stop depth (ls.drop i))
      (bothAt stop ls depth i)
  moreBoth (left : Term) {i : Nat} : i ≤ ls.length → 8 * (ls.length - i) ≤ depth →
    Agrees (Within stop) (Reached ls i) (moreBoth stop depth left (ls.drop i))
      (moreBothAt stop ls depth left i)
  compare {i : Nat} : 8 * (ls.length - i) + 2 ≤ depth →
    Agrees (Within stop) (Reached ls (i + 1)) (parseCompare stop depth (ls.drop i))
      (compareAt stop ls depth i)
  primary {i : Nat} : 8 * (ls.length - i) + 1 ≤ depth →
    Agrees (Within stop) (Reached ls (i + 1)) (parsePrimary stop depth (ls.drop i))
      (primaryAt stop ls depth i)
  arguments (name : String) {i : Nat} : 8 * (ls.length - i) + 6 ≤ depth →
    Agrees (Within stop) (Reached ls (i + 1)) (parseArguments stop name depth (ls.drop i))
      (argumentsAt stop ls name depth i)
  moreArguments (name : String) {i : Nat} : 8 * (ls.length - i) + 5 ≤ depth →
    Agrees (Within stop) (Reached ls (i + 1)) (moreArguments stop name depth (ls.drop i))
      (moreArgumentsAt stop ls name depth i)

section

variable {stop : Nat} {ls : Lexemes} {depth i : Nat}

theorem hasWord_cases (ls : Lexemes) (text : String) (i : Nat) :
    (hasWord ls text i = true ∧ i < ls.length ∧
        ∃ offset, ls.drop i = (.word text, offset) :: ls.drop (i + 1)) ∨
      (hasWord ls text i = false ∧ ∀ offset rest, ls.drop i ≠ (.word text, offset) :: rest) := by
  obtain ⟨get, nil⟩ | ⟨⟨lexeme, offset⟩, get, cons, lt⟩ := peek_cases ls i
  · right
    simp [hasWord, get, nil]
  · by_cases same : lexeme = .word text
    · subst same
      exact .inl ⟨by simp [hasWord, get], lt, offset, cons⟩
    · right
      simp [hasWord, get, cons, same]

theorem either_step (steps : Steps stop ls depth) (enough : 8 * (ls.length - i) + 4 ≤ depth + 1) :
    Agrees (Within stop) (Reached ls (i + 1)) (parseEither stop (depth + 1) (ls.drop i))
      (eitherAt stop ls (depth + 1) i) := by
  rw [parseEither, eitherAt]
  apply (steps.both (by omega)).bind_reached
  intro left j least most
  exact (steps.moreEither left most (by omega)).earlier least

theorem moreEither_other {left : Term} {input : Lexemes}
    (other : ∀ offset rest, input ≠ (.word "or", offset) :: rest) :
    moreEither stop depth left input = .ok (left, input) := by
  unfold moreEither
  split
  · exact absurd rfl (other _ _)
  · rfl

theorem moreEither_step (steps : Steps stop ls depth) (left : Term) (most : i ≤ ls.length)
    (enough : 8 * (ls.length - i) ≤ depth + 1) :
    Agrees (Within stop) (Reached ls i) (moreEither stop (depth + 1) left (ls.drop i))
      (moreEitherAt stop ls (depth + 1) left i) := by
  rw [moreEitherAt]
  obtain ⟨has, lt, offset, cons⟩ | ⟨has, other⟩ := hasWord_cases ls "or" i
  · rw [cons, moreEither, if_pos has]
    apply (steps.both (by omega)).bind_reached
    intro right j least most
    exact (steps.moreEither _ most (by omega)).earlier (by omega)
  · rw [moreEither_other other, has]
    exact .ok (.intro left (Nat.le_refl i) most)

theorem both_step (steps : Steps stop ls depth) (enough : 8 * (ls.length - i) + 3 ≤ depth + 1) :
    Agrees (Within stop) (Reached ls (i + 1)) (parseBoth stop (depth + 1) (ls.drop i))
      (bothAt stop ls (depth + 1) i) := by
  rw [parseBoth, bothAt]
  apply (steps.compare (by omega)).bind_reached
  intro left j least most
  exact (steps.moreBoth left most (by omega)).earlier least

theorem moreBoth_other {left : Term} {input : Lexemes}
    (other : ∀ offset rest, input ≠ (.word "and", offset) :: rest) :
    moreBoth stop depth left input = .ok (left, input) := by
  unfold moreBoth
  split
  · exact absurd rfl (other _ _)
  · rfl

theorem moreBoth_step (steps : Steps stop ls depth) (left : Term) (most : i ≤ ls.length)
    (enough : 8 * (ls.length - i) ≤ depth + 1) :
    Agrees (Within stop) (Reached ls i) (moreBoth stop (depth + 1) left (ls.drop i))
      (moreBothAt stop ls (depth + 1) left i) := by
  rw [moreBothAt]
  obtain ⟨has, lt, offset, cons⟩ | ⟨has, other⟩ := hasWord_cases ls "and" i
  · rw [cons, moreBoth, if_pos has]
    apply (steps.compare (by omega)).bind_reached
    intro right j least most
    exact (steps.moreBoth _ most (by omega)).earlier (by omega)
  · rw [moreBoth_other other, has]
    exact .ok (.intro left (Nat.le_refl i) most)

theorem compare_step (steps : Steps stop ls depth) (enough : 8 * (ls.length - i) + 2 ≤ depth + 1) :
    Agrees (Within stop) (Reached ls (i + 1)) (parseCompare stop (depth + 1) (ls.drop i))
      (compareAt stop ls (depth + 1) i) := by
  rw [parseCompare, compareAt]
  apply (steps.primary (by omega)).bind_reached
  intro left j least most
  obtain ⟨get, nil⟩ | ⟨⟨lexeme, offset⟩, get, cons, lt⟩ := peek_cases ls j
  · simp only [get, nil]
    rw [← nil]
    exact .ok (.intro left least most)
  · simp only [get, cons]
    cases lexeme with
    | comparison op =>
      apply (steps.primary (by omega)).bind_reached
      intro right k later most
      exact .ok (.intro _ (by omega) most)
    | _ =>
      simp only []
      rw [← cons]
      exact .ok (.intro left least most)

theorem offsetOf_drop : offsetOf stop (ls.drop i) = offsetAt stop ls i := by
  obtain ⟨get, nil⟩ | ⟨⟨lexeme, offset⟩, get, cons, -⟩ := peek_cases ls i
  · simp [offsetAt, get, nil, offsetOf]
  · simp [offsetAt, get, cons, offsetOf]

variable (placed : ∀ l ∈ ls, l.2 ≤ stop)

include placed

theorem offsetAt_le : offsetAt stop ls i ≤ stop := by
  cases get : ls[i]? with
  | none => simp [offsetAt, get]
  | some l => simpa [offsetAt, get] using placed l (List.mem_of_getElem? get)

theorem fail_at {α β : Type} {R : α → β → Prop} {lexeme : Lexeme} {offset : Nat} (cause : Cause)
    (get : ls[i]? = some (lexeme, offset)) :
    Agrees (Within stop) R (.error (cause, offset)) (fail (cause, offset)) :=
  .fault ⟨rfl, placed _ (List.mem_of_getElem? get)⟩

theorem call_step (steps : Steps stop ls depth) {name : String} {offset : Nat}
    (get : ls[i]? = some (.word name, offset)) (enough : 8 * (ls.length - i) ≤ depth) :
    Agrees (Within stop) (Reached ls (i + 1))
      (parsePrimary stop (depth + 1) ((.word name, offset) :: ls.drop (i + 1)))
      (primaryAt stop ls (depth + 1) i) := by
  simp only [parsePrimary, primaryAt, get]
  cases Function.ofName? name with
  | none => exact fail_at placed _ get
  | some f =>
    obtain ⟨get', nil⟩ | ⟨⟨lexeme, offset'⟩, get', cons, lt⟩ := peek_cases ls (i + 1)
    · simp only [get', nil]
      exact fail_at placed _ get
    · simp only [get', cons]
      cases lexeme with
      | openParen =>
        apply (steps.arguments name (by omega)).bind_reached
        intro arguments j least most
        simp only []
        split
        · exact .ok (.intro _ (by omega) most)
        · exact fail_at placed _ get
      | _ => exact fail_at placed _ get

theorem primary_step (steps : Steps stop ls depth) (enough : 8 * (ls.length - i) + 1 ≤ depth + 1) :
    Agrees (Within stop) (Reached ls (i + 1)) (parsePrimary stop (depth + 1) (ls.drop i))
      (primaryAt stop ls (depth + 1) i) := by
  obtain ⟨get, nil⟩ | ⟨⟨lexeme, offset⟩, get, cons, lt⟩ := peek_cases ls i
  · rw [nil]
    simp only [parsePrimary, primaryAt, get]
    exact .fault ⟨rfl, Nat.le_refl stop⟩
  have single (term : Term) : Agrees (Within stop) (Reached ls (i + 1))
      (.ok (term, ls.drop (i + 1))) (.ok (term, i + 1)) := .ok (.intro term (Nat.le_refl _) lt)
  rw [cons]
  cases lexeme with
  | word name => exact call_step placed steps get (by omega)
  | literal _ | number _ | attr _ =>
    simp only [parsePrimary, primaryAt, get]
    exact single _
  | var name =>
    simp only [parsePrimary, primaryAt, get]
    cases Variable.ofName? name with
    | none => exact fail_at placed _ get
    | some v => exact single _
  | openParen =>
    simp only [parsePrimary, primaryAt, get]
    apply (steps.either (by omega)).bind_reached
    intro inner j least most
    obtain ⟨get', nil⟩ | ⟨⟨lexeme, offset'⟩, get', cons, lt'⟩ := peek_cases ls j
    · simp only [get', nil]
      exact fail_at placed _ get
    · simp only [get', cons]
      cases lexeme with
      | closeParen => exact .ok (.intro inner (by omega) lt')
      | _ => exact fail_at placed _ get
  | comparison _ | closeParen | comma =>
    simp only [parsePrimary, primaryAt, get]
    exact fail_at placed _ get

omit placed in
theorem arguments_step (steps : Steps stop ls depth) (name : String)
    (enough : 8 * (ls.length - i) + 6 ≤ depth + 1) :
    Agrees (Within stop) (Reached ls (i + 1)) (parseArguments stop name (depth + 1) (ls.drop i))
      (argumentsAt stop ls name (depth + 1) i) := by
  rw [argumentsAt]
  obtain ⟨get, nil⟩ | ⟨⟨lexeme, offset⟩, get, cons, lt⟩ := peek_cases ls i
  · rw [nil, parseArguments, get, ← nil]
    · exact steps.moreArguments name (by omega)
    · simp
  · simp only [get]
    rw [cons]
    cases lexeme with
    | closeParen =>
      rw [parseArguments]
      exact .ok (.intro _ (Nat.le_refl _) lt)
    | _ =>
      simp only [parseArguments]
      rw [← cons]
      exact steps.moreArguments name (by omega)

theorem moreArguments_step (steps : Steps stop ls depth) (name : String)
    (enough : 8 * (ls.length - i) + 5 ≤ depth + 1) :
    Agrees (Within stop) (Reached ls (i + 1)) (moreArguments stop name (depth + 1) (ls.drop i))
      (moreArgumentsAt stop ls name (depth + 1) i) := by
  rw [moreArguments, moreArgumentsAt]
  apply (steps.either (by omega)).bind_reached
  intro first j least most
  have missing {α β : Type} {R : α → β → Prop} : Agrees (Within stop) R
      (.error (.missingSeparator name, offsetOf stop ((ls.drop j).drop 1)))
      (fail (.missingSeparator name, offsetAt stop ls (j + 1))) := by
    rw [List.drop_drop, offsetOf_drop]
    exact .fault ⟨rfl, offsetAt_le placed⟩
  obtain ⟨get, nil⟩ | ⟨⟨lexeme, offset⟩, get, cons, lt⟩ := peek_cases ls j
  · simp only [get, nil] at missing ⊢
    exact missing
  · simp only [get, cons] at missing ⊢
    cases lexeme with
    | closeParen => exact .ok (.intro _ (by omega) lt)
    | comma =>
      apply (steps.moreArguments name (by omega)).bind_reached
      intro others k later most
      exact .ok (.intro _ (by omega) most)
    | _ => exact missing

/-- The parsers agree at every depth, by induction on it. -/
theorem steps (depth : Nat) : Steps stop ls depth := by
  induction depth with
  | zero =>
    have more (left : Term) {i : Nat} (most : i ≤ ls.length) (enough : 8 * (ls.length - i) ≤ 0) :
        Agrees (Within stop) (Reached ls i) (.ok (left, ls.drop i)) (.ok (left, i)) :=
      .ok (.intro left (Nat.le_refl i) most)
    -- The two loops alone may have no depth left, and then they are behind the last lexeme.
    exact {
      either := fun enough => by omega
      moreEither := fun left i most enough => by
        obtain rfl : i = ls.length := by omega
        simpa [moreEither, moreEitherAt, hasWord] using more left most enough
      both := fun enough => by omega
      moreBoth := fun left i most enough => by
        obtain rfl : i = ls.length := by omega
        simpa [moreBoth, moreBothAt, hasWord] using more left most enough
      compare := fun enough => by omega
      primary := fun enough => by omega
      arguments := fun name _ enough => by omega
      moreArguments := fun name _ enough => by omega }
  | succ depth ih =>
    exact {
      either := either_step ih
      moreEither := fun left _ => moreEither_step ih left
      both := both_step ih
      moreBoth := fun left _ => moreBoth_step ih left
      compare := compare_step ih
      primary := primary_step placed ih
      arguments := fun name _ => arguments_step ih name
      moreArguments := fun name _ => moreArguments_step placed ih name }

end

/-- A text is parsed by positions as it is over lists. -/
theorem parse_agrees (source : String) :
    Agrees (Within source.length) (fun term term' => term' = term) (Term.parse source)
      (parse source) := by
  apply (lexemesAt_agrees source.toList.length (by omega)).bind
  rintro ls ls' ⟨rfl, placed⟩
  have parsed := (steps placed (8 * (ls'.length + 1))).either (i := 0) (by omega)
  apply parsed.bind_reached
  intro term i least most
  obtain ⟨get, nil⟩ | ⟨⟨lexeme, offset⟩, get, cons, lt⟩ := peek_cases ls' i
  · simp only [get, nil]
    exact .ok rfl
  · simp only [get, cons]
    exact fail_at placed _ get

end SpanSearch.Expression.Cursor
