import SpanSearch.Proofs.Pattern.Positions

/-! # Suffixes by positions

The readers of quantifiers and setters, by positions in the characters of a pattern. They cut the
text between braces and the expression of a setter out by ranges. No position leaves the pattern,
and what they read or blame is what the readers over lists do.
-/

namespace SpanSearch.Pattern.Cursor

open SpanSearch.Cursor Unicode

/-! ## Quantifiers -/

section

variable (cs : List Char)

/-- Reads a quantifier between braces. -/
def bracesAt (i : Nat) : Run Fault (Bounds × Nat) := do
  let tail ← slice cs i cs.length
  match tail.findIdx? (· == '}') with
  | none => fail (.malformed .unterminatedQuantifier i)
  | some k =>
    let inner ← slice cs (i + 1) (i + k)
    match bounds? inner with
    | some bounds => .ok (bounds, i + k + 1)
    | none => fail (.malformed (.invalidQuantifier (String.ofList inner)) i)

/-- Reads a quantifier that starts with the mark `c` at `i`. -/
def boundsAt (c : Char) (i : Nat) : Run Fault (Bounds × Nat) :=
  if c == '?' then .ok (⟨0, 1⟩, i + 1)
  else if c == '*' then .ok (⟨0, Bounds.unbounded⟩, i + 1)
  else if c == '+' then .ok (⟨1, Bounds.unbounded⟩, i + 1)
  else bracesAt cs i

/-- Reads a quantifier, if there is one. -/
def quantifierAt (i : Nat) : Run Fault (Bounds × Nat) :=
  let i := pass isSpace cs i
  match cs[i]? with
  | none => .ok (.once, i)
  | some c =>
    if isQuantifierMark c then do
      let (bounds, j) ← boundsAt cs c i
      let j := pass isSpace cs j
      if cs[j]?.any isQuantifierMark then fail (.malformed .repeatedQuantifier j)
      else .ok (bounds, j)
    else .ok (.once, i)

variable {cs} {i : Nat}

/-- The closing brace by its index, and as the end of what stands before it. -/
theorem brace_cases (rest : List Char) :
    (rest.findIdx? (· == '}') = none ∧ rest.dropWhile (· != '}') = []) ∨
      ∃ k, rest.findIdx? (· == '}') = some k ∧ k < rest.length
        ∧ rest.takeWhile (· != '}') = rest.take k
        ∧ rest.dropWhile (· != '}') = '}' :: rest.drop (k + 1) := by
  induction rest with
  | nil => exact .inl ⟨rfl, rfl⟩
  | cons c rest ih =>
    by_cases brace : c = '}'
    · subst brace
      exact .inr ⟨0, rfl, by simp, rfl, rfl⟩
    · obtain ⟨found, nil⟩ | ⟨k, found, lt, take, drop⟩ := ih
      · left
        simp [List.findIdx?_cons, brace, found, nil]
      · right
        refine ⟨k + 1, ?_, by simpa using lt, ?_, ?_⟩
        · simp [List.findIdx?_cons, brace, found]
        · simp [brace, take]
        · simp [brace, drop]

/-- The closing brace is looked for from the opening one on, and the bounds stand between them. -/
theorem bracesAt_agrees (get : cs[i]? = some '{') :
    Agrees (Located cs.length) (Reached cs (i + 1)) (readBounds '{' (cs.drop (i + 1)))
      (bracesAt cs i) := by
  obtain ⟨lt, eq⟩ := List.getElem?_eq_some_iff.1 get
  have place := left_drop lt rfl
  have tail : (cs.drop i).take (cs.length - i) = '{' :: cs.drop (i + 1) := by
    rw [List.take_of_length_le (by simp), List.drop_eq_getElem_cons lt, eq]
  unfold readBounds bracesAt
  rw [slice_eq (Nat.le_of_lt lt) (Nat.le_refl _), ok_bind, tail, List.findIdx?_cons]
  obtain ⟨none, nil⟩ | ⟨k, found, lt', take, drop⟩ := brace_cases (cs.drop (i + 1))
  · simp only [none, nil]
    exact fail_located _ place
  · simp only [found, take, drop]
    simp only [List.length_drop] at lt'
    have inner : (slice cs (i + 1) (i + (k + 1)) : Run Fault (List Char))
        = .ok ((cs.drop (i + 1)).take k) := by
      rw [slice_eq (by omega) (by omega)]
      congr 2
      omega
    have after : (cs.drop (i + 1)).drop (k + 1) = cs.drop (i + (k + 1) + 1) := by
      rw [List.drop_drop]
      congr 1
      omega
    simp only [Char.reduceBEq, Bool.false_eq_true, if_false, Option.map_some, inner, ok_bind, after]
    cases bounds? ((cs.drop (i + 1)).take k) with
    | none => exact fail_located _ place
    | some bounds => exact .ok (.intro bounds (by omega) (by omega))

theorem boundsAt_agrees {c : Char} (get : cs[i]? = some c) (mark : isQuantifierMark c = true) :
    Agrees (Located cs.length) (Reached cs (i + 1)) (readBounds c (cs.drop (i + 1)))
      (boundsAt cs c i) := by
  obtain ⟨lt, -⟩ := List.getElem?_eq_some_iff.1 get
  by_cases brace : c = '{'
  · subst brace
    exact bracesAt_agrees get
  have single : c = '?' ∨ c = '*' ∨ c = '+' := by
    simpa [isQuantifierMark, brace, or_assoc] using mark
  rcases single with rfl | rfl | rfl
  all_goals exact .ok (.intro _ (Nat.le_refl _) lt)

theorem quantifierAt_agrees (most : i ≤ cs.length) :
    Agrees (Located cs.length) (Reached cs i) (readQuantifier (cs.drop i))
      (quantifierAt cs i) := by
  unfold readQuantifier quantifierAt
  have skipped : i ≤ pass isSpace cs i := le_pass
  have bounded := pass_le (p := isSpace) most
  rw [trimStart_drop]
  dsimp only
  generalize pass isSpace cs i = j at *
  obtain ⟨get, nil⟩ | ⟨c, get, cons, lt⟩ := peek_cases cs j
  · simp only [get, nil]
    rw [← nil]
    exact .ok (.intro _ skipped bounded)
  simp only [get, cons]
  split
  · next mark =>
    apply (boundsAt_agrees get mark).bind_reached
    intro bounds k least most
    have skipped : k ≤ pass isSpace cs k := le_pass
    have bounded := pass_le (p := isSpace) most
    rw [trimStart_drop]
    dsimp only
    rw [List.head?_drop]
    generalize pass isSpace cs k = k' at *
    split
    · apply fail_located
      simp only [List.length_drop]
      omega
    · exact .ok (.intro _ (by omega) bounded)
  · rw [← cons]
    exact .ok (.intro _ skipped bounded)

end

/-! ## Setters -/

section

variable (cs : List Char)

/-- The place of the parenthesis that closes the expression of a setter. -/
def closeAt (depth : Int) (quote : Option Char) (i : Nat) : Option Nat :=
  match _here : cs[i]? with
  | none => none
  | some c =>
    match quote with
    | some q => closeAt depth (if c == q then none else some q) (i + 1)
    | none =>
      if c == '\'' || c == '"' then closeAt depth (some c) (i + 1)
      else if c == '(' then closeAt (depth + 1) none (i + 1)
      else if c == ')' then
        if depth - 1 == 0 then some i else closeAt (depth - 1) none (i + 1)
      else closeAt depth none (i + 1)
termination_by cs.length - i
decreasing_by
  all_goals
    obtain ⟨lt, -⟩ := List.getElem?_eq_some_iff.1 _here
    omega

/-- Reads an expression in parentheses, which open at `i`. -/
def balancedAt (i : Nat) : Run Fault (List Char × Nat) :=
  match closeAt cs 0 none i with
  | none => fail (.malformed .unterminatedExpression i)
  | some j => do
    let text ← slice cs (i + 1) j
    .ok (text, j + 1)

/-- Reads the name and the policy of a setter that starts at `start`. -/
def targetAt (start : Nat) (e : Option Expression) (i : Nat) : Run Fault (Setter × Nat) := do
  let (name, j) ← nameAt cs i
  if name.isEmpty then fail (.malformed .missingName start)
  else if cs[j]? == some '[' then
    match Expression.Cursor.textAt ']' cs (j + 1) with
    | none => fail (.malformed .unterminatedSeparator j)
    | some (text, k) => .ok (⟨String.ofList name, e, policyOf text⟩, k)
  else .ok (⟨String.ofList name, e, .join none⟩, j)

/-- Reads a setter, of which the `@` is at `i`. -/
def setterAt (i : Nat) : Run Fault (Setter × Nat) :=
  if cs[i + 1]? == some '(' then do
    let (text, j) ← balancedAt cs (i + 1)
    let e ← expressionAt .setter (i + 2) text
    if cs[j]? == some ':' then targetAt cs i (some e) (j + 1)
    else fail (.malformed .missingColon j)
  else targetAt cs i none (i + 1)

/-- Reads setters, as many as there are. -/
def settersAt : (depth : Nat) → (i : Nat) → Run Fault (List Setter × Nat)
  | 0, _ => .error .exhausted
  | depth + 1, i =>
    let i := pass isSpace cs i
    if cs[i]? == some '@' then do
      let (setter, j) ← setterAt cs i
      (settersAt depth j).map fun (setters, k) => (setter :: setters, k)
    else .ok ([], i)

/-- Reads what follows an element. -/
def suffixAt (i : Nat) : Run Fault (Suffix × Nat) := do
  let (bounds, j) ← quantifierAt cs i
  let (setters, k) ← settersAt cs (cs.length + 1) j
  .ok (⟨bounds, setters⟩, k)

variable {cs} {i : Nat}

/-- What was read up to a parenthesis, and the place of that parenthesis. -/
def ClosesAt (cs : List Char) (i : Nat) (read : List Char × List Char) (j : Nat) : Prop :=
  i ≤ j ∧ j < cs.length ∧ read = ((cs.drop i).take (j - i), cs.drop (j + 1))

theorem closes_step {c : Char} {x : Option (List Char × List Char)} {y : Option Nat}
    (cons : cs.drop i = c :: cs.drop (i + 1)) (related : Option.Rel (ClosesAt cs (i + 1)) x y) :
    Option.Rel (ClosesAt cs i) (x.map fun (text, after) => (c :: text, after)) y := by
  cases related with
  | none => exact .none
  | @some _ j closes =>
    obtain ⟨le, lt, rfl⟩ := closes
    have more : j - i = j - (i + 1) + 1 := by omega
    refine .some ⟨by omega, lt, ?_⟩
    rw [cons, more, List.take_succ_cons]

theorem closeAt_none (get : cs[i]? = none) (depth : Int) (quote : Option Char) :
    closeAt cs depth quote i = none := by
  rw [closeAt]
  split
  · rfl
  · next get' => cases get.symm.trans get'

theorem closeAt_some {c : Char} (get : cs[i]? = some c) (depth : Int) (quote : Option Char) :
    closeAt cs depth quote i =
      match quote with
      | some q => closeAt cs depth (if c == q then none else some q) (i + 1)
      | none =>
        if c == '\'' || c == '"' then closeAt cs depth (some c) (i + 1)
        else if c == '(' then closeAt cs (depth + 1) none (i + 1)
        else if c == ')' then
          if depth - 1 == 0 then some i else closeAt cs (depth - 1) none (i + 1)
        else closeAt cs depth none (i + 1) := by
  conv => lhs; rw [closeAt]
  split
  · next get' => cases get.symm.trans get'
  · next get' =>
    cases get.symm.trans get'
    rfl

/-- The program counts the parenthesis around the expression, the reader over lists does not. -/
theorem closeAt_related (rest : List Char) (whole : cs.drop i = rest) (depth : Nat)
    (quote : Option Char) :
    Option.Rel (ClosesAt cs i) (readBalanced depth quote rest)
      (closeAt cs (depth + 1) quote i) := by
  induction rest generalizing i depth quote with
  | nil =>
    rw [closeAt_none (by simpa using whole)]
    exact .none
  | cons c tail ih =>
    obtain ⟨-, nil⟩ | ⟨d, get, cons, lt⟩ := peek_cases cs i
    · cases whole.symm.trans nil
    obtain ⟨rfl, rfl⟩ := List.cons.inj (whole.symm.trans cons)
    have step {depth : Nat} {quote : Option Char} :
        Option.Rel (ClosesAt cs i)
          ((readBalanced depth quote (cs.drop (i + 1))).map fun (text, after) => (c :: text, after))
          (closeAt cs (depth + 1) quote (i + 1)) :=
      closes_step whole (ih rfl depth quote)
    rw [closeAt_some get]
    unfold readBalanced
    dsimp only
    cases quote with
    | some q => exact step
    | none =>
      dsimp only
      split
      · exact step
      split
      · exact step
      split
      · cases depth with
        | zero => exact .some ⟨Nat.le_refl i, lt, by simp⟩
        | succ depth =>
          have inner : ((depth + 1 : Nat) : Int) + 1 - 1 = depth + 1 := by omega
          have open' : ((depth : Int) + 1 == 0) = false := by
            rw [beq_eq_false_iff_ne]
            omega
          rw [inner, open']
          exact step
      · exact step

theorem balancedAt_cases (get : cs[i]? = some '(') :
    (readBalanced 0 none (cs.drop (i + 1)) = none
        ∧ balancedAt cs i = fail (.malformed .unterminatedExpression i)) ∨
      ∃ text j, readBalanced 0 none (cs.drop (i + 1)) = some (text, cs.drop j)
        ∧ balancedAt cs i = .ok (text, j) ∧ i + 1 + text.length < j ∧ j ≤ cs.length := by
  have related := closeAt_related (cs.drop (i + 1)) rfl 0 none
  have opened : closeAt cs 0 none i = closeAt cs ((0 : Nat) + 1) none (i + 1) := by
    rw [closeAt_some get]
    rfl
  unfold balancedAt
  rw [opened]
  generalize readBalanced 0 none (cs.drop (i + 1)) = x at *
  generalize closeAt cs ((0 : Nat) + 1) none (i + 1) = y at *
  cases related with
  | none => exact .inl ⟨rfl, rfl⟩
  | @some _ j closes =>
    obtain ⟨le, lt, rfl⟩ := closes
    right
    refine ⟨_, j + 1, rfl, ?_, ?_, lt⟩
    · simp only [slice_eq le (Nat.le_of_lt lt), ok_bind]
    · simp only [List.length_take, List.length_drop]
      omega

theorem readSeparator_eq (rest : List Char) :
    readSeparator rest = Expression.Lexeme.takeText ']' rest := by
  fun_induction readSeparator rest with
  | case1 => rfl
  | case2 tail ih => simp [Expression.Lexeme.takeText, ih]
  | case3 c tail other closes =>
    cases tail with
    | nil => simp_all [Expression.Lexeme.takeText]
    | cons d tail => simp_all [Expression.Lexeme.takeText]
  | case4 c tail other more ih =>
    cases tail with
    | nil => simp_all [Expression.Lexeme.takeText]
    | cons d tail => simp_all [Expression.Lexeme.takeText]

theorem targetAt_agrees {start left : Nat} (whole : start + left = cs.length)
    (e : Option Expression) (most : i ≤ cs.length) :
    Agrees (Located cs.length) (Reached cs i) (readTarget left e (cs.drop i))
      (targetAt cs start e i) := by
  unfold readTarget targetAt
  have named : i ≤ pass isNameChar cs i := le_pass
  have bounded := pass_le (p := isNameChar) most
  rw [nameAt_eq most, ok_bind, ← drop_pass]
  dsimp only
  generalize pass isNameChar cs i = j at *
  split
  · exact fail_located _ whole
  obtain ⟨get, cons, lt⟩ | ⟨get, other⟩ := find_cases cs '[' j
  · simp only [get, cons, beq_self_eq_true, if_true, readSeparator_eq]
    obtain ⟨failed, failed'⟩ | ⟨text, k, found, found', least, most⟩ :=
      related_cases (@Expression.Cursor.textAt_related cs (j + 1) ']')
    · rw [failed, failed']
      exact fail_located _ (left_drop lt rfl)
    · rw [found, found']
      exact .ok (.intro _ (by omega) most)
  · simp only [get, Bool.false_eq_true, if_false]
    exact .ok (.intro _ named bounded)

theorem setterAt_agrees (get : cs[i]? = some '@') :
    Agrees (Located cs.length) (Reached cs (i + 1))
      (readSetter Expression.standard (cs.drop (i + 1))) (setterAt cs i) := by
  obtain ⟨lt, -⟩ := List.getElem?_eq_some_iff.1 get
  have whole := left_drop lt rfl
  unfold readSetter setterAt
  dsimp only
  obtain ⟨get', cons, lt'⟩ | ⟨get', other⟩ := find_cases cs '(' (i + 1)
  · simp only [cons, get', beq_self_eq_true, if_true]
    obtain ⟨failed, fails⟩ | ⟨text, j, found, reads, fits, most⟩ := balancedAt_cases get'
    · rw [failed, fails]
      exact fail_located _ (left_drop lt' rfl)
    rw [found, reads, ok_bind]
    dsimp only
    have start : i + 2 + (cs.drop (i + 2)).length = cs.length := by
      simp only [List.length_drop]
      omega
    have room : text.length ≤ (cs.drop (i + 2)).length := by
      simp only [List.length_drop]
      omega
    apply (expressionAt_agrees .setter start room).bind
    rintro _ e rfl
    obtain ⟨colon, cons', lt''⟩ | ⟨colon, other⟩ := find_cases cs ':' j
    · simp only [cons', colon, beq_self_eq_true, if_true, ← cons]
      exact (targetAt_agrees whole (some e) lt'').earlier (by omega)
    · simp only [colon, Bool.false_eq_true, if_false]
      apply fail_located
      simp only [List.length_drop]
      omega
  · simp only [get', Bool.false_eq_true, if_false]
    exact targetAt_agrees whole none lt

theorem settersAt_agrees {depth : Nat} (most : i ≤ cs.length) (enough : cs.length - i < depth) :
    Agrees (Located cs.length) (Reached cs i) (readSetters Expression.standard (cs.drop i))
      (settersAt cs depth i) := by
  induction depth generalizing i with
  | zero => omega
  | succ depth ih =>
    have skipped : i ≤ pass isSpace cs i := le_pass
    have bounded := pass_le (p := isSpace) most
    rw [readSetters_eq, settersAt, trimStart_drop]
    dsimp only
    generalize pass isSpace cs i = j at *
    obtain ⟨get, cons, lt⟩ | ⟨get, other⟩ := find_cases cs '@' j
    · simp only [cons, get, beq_self_eq_true, if_true]
      apply (setterAt_agrees get).bind_reached
      intro setter k least most
      have others := (ih most (by omega)).earlier (j := i) (by omega)
      exact others.map fun _ _ reached => reached.map (setter :: ·)
    · simp only [get, Bool.false_eq_true, if_false]
      exact .ok (.intro _ skipped bounded)

theorem suffixAt_agrees (most : i ≤ cs.length) :
    Agrees (Located cs.length) (Reached cs i) (readSuffix Expression.standard (cs.drop i))
      (suffixAt cs i) := by
  apply (quantifierAt_agrees most).bind_reached
  intro bounds j least most
  apply (settersAt_agrees most (by omega)).bind_reached
  intro setters k later most
  exact .ok (.intro _ (by omega) most)

end

end SpanSearch.Pattern.Cursor
