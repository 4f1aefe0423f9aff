import SpanSearch.Pattern.Parser
import SpanSearch.Proofs.Expression.Descent
import SpanSearch.Proofs.Pattern.Quotes

/-! # Atoms by positions

The readers of literals, regular expressions and tags, by positions in the characters of a pattern.
They look ahead, cut names out by ranges, and take the parentheses off a value by its bytes. No
position leaves the pattern, and what they read or blame is what the readers over lists do.
-/

namespace SpanSearch.Pattern.Cursor

open SpanSearch.Cursor Unicode

/-- What is wrong at a number of characters from the end, and the same at a place, where `n` is the
number of all the characters. -/
inductive Located (n : Nat) : Trouble → Fault → Prop
  | intro (cause : PatternCause) {left offset : Nat} : offset + left = n →
    Located n (.malformed cause left) (.malformed cause offset)

section

variable (cs : List Char)

/-! ## Quoted text, names and expressions -/

/-- Reads the text from `i` on up to the closing quote. -/
def insideAt (strict : Bool) (quote : Char) (i : Nat) : Option (List Char × Nat) :=
  match _here : cs[i]? with
  | none => none
  | some c =>
    if c == '\\' then
      match cs[i + 1]? with
      | none => none
      | some d => (insideAt strict quote (i + 2)).map fun (text, j) =>
        if d == quote || (strict && d == '\\') then (d :: text, j) else ('\\' :: d :: text, j)
    else if c == quote then some ([], i + 1)
    else (insideAt strict quote (i + 1)).map fun (text, j) => (c :: text, j)
termination_by cs.length - i
decreasing_by
  all_goals
    obtain ⟨lt, -⟩ := List.getElem?_eq_some_iff.1 _here
    omega

/-- Reads quoted text, of which the opening quote is expected at `i`. -/
def quotedAt (strict : Bool) (part : QuotedPart) (i : Nat) : Run Fault (List Char × Nat) :=
  match cs[i]? with
  | none => fail (.malformed (.missingQuote part) i)
  | some quote =>
    if quote == '\'' || quote == '"' then
      match insideAt cs strict quote (i + 1) with
      | some read => .ok read
      | none => fail (.malformed (.unterminated part) i)
    else fail (.malformed (.missingQuote part) i)

/-- Reads a name. -/
def nameAt (i : Nat) : Run Fault (List Char × Nat) := do
  let j := pass isNameChar cs i
  let name ← slice cs i j
  .ok (name, j)

/-- Reads the expression that a text writes, which starts at `start`. -/
def expressionAt (place : ExpressionPlace) (start : Nat) (text : List Char) :
    Run Fault Expression :=
  match Expression.Cursor.parse (String.ofList text) with
  | .ok term => .ok ⟨String.ofList text, term⟩
  | .error (.fault (cause, offset)) =>
    fail (.malformed (.invalidExpression place cause) (start + offset))
  | .error .outOfRange => .error .outOfRange
  | .error .exhausted => .error .exhausted

variable {cs} {i : Nat}

theorem fail_located {α β : Type} {R : α → β → Prop} {left offset n : Nat} (cause : PatternCause)
    (place : offset + left = n) :
    Agrees (Located n) R (.error (.malformed cause left)) (fail (.malformed cause offset)) :=
  .fault (.intro cause place)

/-- Where the pattern was skipped, what is left was trimmed. -/
theorem trimStart_drop : trimStart (cs.drop i) = cs.drop (pass isSpace cs i) :=
  drop_pass.symm

theorem nameAt_eq (most : i ≤ cs.length) :
    nameAt cs i = .ok ((cs.drop i).takeWhile isNameChar, pass isNameChar cs i) := by
  simp only [nameAt, slice_pass most, bind, Except.bind]

theorem insideAt_related (strict : Bool) (quote : Char) :
    Option.Rel (Reached cs (i + 1)) (Quoted.read strict quote (cs.drop i))
      (insideAt cs strict quote i) := by
  fun_induction insideAt cs strict quote i with
  | case1 i ended =>
    rw [List.drop_eq_nil_of_le (List.getElem?_eq_none_iff.1 ended), Quoted.read]
    exact .none
  | case2 i c here backslash ended =>
    obtain ⟨lt, rfl⟩ := List.getElem?_eq_some_iff.1 here
    rw [beq_iff_eq] at backslash
    rw [List.drop_eq_getElem_cons lt, backslash,
      List.drop_eq_nil_of_le (List.getElem?_eq_none_iff.1 ended), Quoted.read]
    exact .none
  | case3 i c here backslash d next ih =>
    obtain ⟨lt, rfl⟩ := List.getElem?_eq_some_iff.1 here
    obtain ⟨lt', rfl⟩ := List.getElem?_eq_some_iff.1 next
    rw [beq_iff_eq] at backslash
    rw [List.drop_eq_getElem_cons lt, List.drop_eq_getElem_cons lt', backslash, Quoted.read_pair]
    apply related_map ih
    intro a b reached
    cases reached with
    | intro text least most =>
      simp only []
      split
      · exact .intro _ (by omega) most
      · exact .intro _ (by omega) most
  | case4 i c here plain closes =>
    obtain ⟨lt, rfl⟩ := List.getElem?_eq_some_iff.1 here
    rw [beq_iff_eq] at plain closes
    rw [List.drop_eq_getElem_cons lt, closes, Quoted.read_quote strict (closes ▸ plain)]
    exact .some (.intro [] (Nat.le_refl _) lt)
  | case5 i c here plain other ih =>
    obtain ⟨lt, rfl⟩ := List.getElem?_eq_some_iff.1 here
    rw [beq_iff_eq] at plain other
    rw [List.drop_eq_getElem_cons lt, Quoted.read_char strict plain other]
    exact related_map ih fun a b reached => (reached.map _).mono (by omega)

/-- A quoted text is no longer than what was read for it. -/
theorem length_text {strict : Bool} {quote : Char} {rest text after : List Char}
    (h : Quoted.read strict quote rest = some (text, after)) :
    text.length + after.length < rest.length := by
  fun_induction Quoted.read strict quote rest generalizing text after with
  | case1 => simp at h
  | case2 => simp at h
  | case3 c tail ih =>
    obtain ⟨⟨t, r⟩, ht, heq⟩ := Option.map_eq_some_iff.1 h
    have := ih ht
    grind
  | case4 => simp_all
  | case5 c tail _ _ _ ih =>
    obtain ⟨⟨t, r⟩, ht, heq⟩ := Option.map_eq_some_iff.1 h
    have := ih ht
    grind

theorem expressionAt_agrees (place : ExpressionPlace) {start left : Nat} {text : List Char}
    (whole : start + left = cs.length) (fits : text.length ≤ left) :
    Agrees (Located cs.length) (fun e e' => e' = e)
      (readExpression Expression.standard place left text) (expressionAt place start text) := by
  have agrees := Expression.Cursor.parse_agrees (String.ofList text)
  simp only [readExpression, Expression.standard, expressionAt]
  generalize Expression.Term.parse (String.ofList text) = x at *
  generalize Expression.Cursor.parse (String.ofList text) = y at *
  cases agrees with
  | ok same =>
    subst same
    exact .ok rfl
  | fault within =>
    obtain ⟨rfl, le⟩ := within
    rw [String.length_ofList] at le
    exact fail_located _ (by omega)

end

/-! ## Values -/

/-- The number of bytes that characters take. -/
def byteLength : (text : List Char) → Nat
  | [] => 0
  | c :: text => c.utf8Size + byteLength text

/-- The characters after the first `n` bytes, unless these end within a character or behind the
last one. -/
def dropBytes : (text : List Char) → (n : Nat) → Option (List Char)
  | text, 0 => some text
  | [], _ + 1 => none
  | c :: text, n + 1 => if c.utf8Size ≤ n + 1 then dropBytes text (n + 1 - c.utf8Size) else none

/-- The characters of the first `n` bytes, unless these end within a character or behind the last
one. -/
def takeBytes : (text : List Char) → (n : Nat) → Option (List Char)
  | _, 0 => some []
  | [], _ + 1 => none
  | c :: text, n + 1 =>
    if c.utf8Size ≤ n + 1 then (takeBytes text (n + 1 - c.utf8Size)).map (c :: ·) else none

/-- The characters from one byte on up to another. -/
def byteSlice (text : List Char) (start stop : Nat) : Run Fault (List Char) :=
  if start ≤ stop then
    match (dropBytes text start).bind (takeBytes · (stop - start)) with
    | some part => .ok part
    | none => .error .outOfRange
  else .error .outOfRange

/-- What a value in a tag asks for. -/
def testOf (value : List Char) : Run Fault ValueTest :=
  if value.isEmpty || value == ['*'] then .ok .present
  else if value.head? == some '(' && value.getLast? == some ')' && 2 < byteLength value then do
    let inner ← byteSlice value 1 (byteLength value - 1)
    .ok (.oneOf (valueTest.alternatives [] inner))
  else .ok (.oneOf [String.ofList value])

theorem byteLength_append (text more : List Char) :
    byteLength (text ++ more) = byteLength text + byteLength more := by
  induction text with
  | nil => rw [List.nil_append, byteLength, Nat.zero_add]
  | cons c text ih => rw [List.cons_append, byteLength, byteLength, ih, Nat.add_assoc]

theorem takeBytes_append (text more : List Char) :
    takeBytes (text ++ more) (byteLength text) = some text := by
  induction text with
  | nil => simp [byteLength, takeBytes]
  | cons c text ih =>
    obtain ⟨n, size⟩ : ∃ n, c.utf8Size = n + 1 := Nat.exists_eq_add_one.2 c.utf8Size_pos
    rw [byteLength, size, Nat.add_right_comm, List.cons_append, takeBytes, if_pos (by omega)]
    have rest : n + byteLength text + 1 - c.utf8Size = byteLength text := by omega
    rw [rest, ih, Option.map_some]

/-- The parentheses around a value take one byte each. -/
theorem byteLength_parentheses (inner : List Char) :
    byteLength ('(' :: (inner ++ [')'])) = byteLength inner + 2 := by
  have opening : '('.utf8Size = 1 := rfl
  have closing : ')'.utf8Size = 1 := rfl
  simp only [byteLength, byteLength_append, opening, closing]
  omega

theorem byteSlice_parentheses (inner : List Char) :
    byteSlice ('(' :: (inner ++ [')'])) 1 (byteLength inner + 1) = .ok inner := by
  have opening : '('.utf8Size = 1 := rfl
  have dropped : dropBytes ('(' :: (inner ++ [')'])) 1 = some (inner ++ [')']) := by
    rw [dropBytes, if_pos (Nat.le_of_eq opening), opening, Nat.zero_add, Nat.sub_self, dropBytes]
  simp [byteSlice, dropped, takeBytes_append]

theorem exists_between {value : List Char} (first : value.head? = some '(')
    (last : value.getLast? = some ')') : ∃ inner, value = '(' :: (inner ++ [')']) := by
  obtain ⟨before, rfl⟩ := List.getLast?_eq_some_iff.1 last
  cases before with
  | nil => simp at first
  | cons c inner =>
    obtain rfl : c = '(' := by simpa using first
    exact ⟨inner, rfl⟩

theorem byteLength_eq_zero {text : List Char} : byteLength text = 0 ↔ text = [] := by
  cases text with
  | nil => simp [byteLength]
  | cons c text =>
    have := c.utf8Size_pos
    simp [byteLength]
    omega

/-- No value is cut within a character. -/
theorem testOf_eq (value : List Char) : testOf value = .ok (valueTest value) := by
  unfold testOf valueTest
  split
  · rfl
  by_cases parentheses : value.head? = some '(' ∧ value.getLast? = some ')'
  · obtain ⟨inner, rfl⟩ := exists_between parentheses.1 parentheses.2
    have more : (2 < byteLength inner + 2) ↔ 2 < ('(' :: (inner ++ [')'])).length := by
      have same : byteLength inner = 0 ↔ inner.length = 0 := by
        rw [byteLength_eq_zero, List.length_eq_zero_iff]
      simp only [List.length_cons, List.length_append, List.length_nil]
      omega
    simp only [byteLength_parentheses, more, parentheses, beq_self_eq_true, Bool.true_and,
      decide_eq_true_eq]
    split
    · simp only [Nat.add_one_sub_one, byteSlice_parentheses, bind, Except.bind, List.drop_succ_cons,
        List.drop_zero, List.dropLast_concat]
    · rfl
  · simp only [not_and_or] at parentheses
    have closed : (value.head? == some '(' && value.getLast? == some ')') = false := by
      grind
    simp only [closed, Bool.false_and, Bool.false_eq_true, if_false]

/-! ## Tags -/

section

variable (options : Options) (cs : List Char)

/-- Reads an attribute of a tag, of which the name starts at `i`. -/
def attributeAt (tag : Tag) (i : Nat) : Run Fault (Tag × Nat) := do
  let (name, j) ← nameAt cs i
  let j := pass isSpace cs j
  if cs[j]? == some '=' then
    let quote := pass isSpace cs (j + 1)
    let (value, k) ← quotedAt cs false .attributeValue quote
    if String.ofList name == testAttribute then
      let e ← expressionAt .test (quote + 1) value
      .ok ({ tag with test := some e }, k)
    else
      let test ← testOf value
      .ok ({ tag with constraints := tag.constraints ++ [⟨String.ofList name, test⟩] }, k)
  else .ok ({ tag with constraints := tag.constraints ++ [⟨String.ofList name, .present⟩] }, j)

/-- Reads the attributes of a tag that opens at `opening`, and its closing bracket. -/
def attributesAt (opening : Nat) : (depth : Nat) → Tag → (i : Nat) → Run Fault (Tag × Nat)
  | 0, _, _ => .error .exhausted
  | depth + 1, tag, i =>
    let i := pass isSpace cs i
    match cs[i]? with
    | none => fail (.malformed .unterminatedTag opening)
    | some c =>
      if c == '>' then .ok (tag, i + 1)
      else if isNameChar c then do
        let (tag, j) ← attributeAt cs tag i
        attributesAt opening depth tag j
      else fail (.malformed (.unexpectedInTag c) i)

/-- Reads a tag that opens at `i`. -/
def tagAt (i : Nat) : Run Fault (Tag × Nat) := do
  let start := pass isSpace cs (i + 1)
  let (type, j) ← nameAt cs start
  if options.allowsType type then
    attributesAt cs i (cs.length + 1) ⟨String.ofList type, [], none⟩ j
  else fail (.malformed (.unknownType (String.ofList type)) start)

variable {options cs} {i : Nat}

theorem left_drop {n : Nat} (lt : i < cs.length) (same : (cs.drop (i + 1)).length = n) :
    i + (n + 1) = cs.length := by
  rw [← same, List.length_drop]
  omega

/-- A value is no longer than what is left behind its quote. -/
theorem quotedAt_agrees (most : i ≤ cs.length) :
    Agrees (Located cs.length)
      (fun a b => Reached cs (i + 1) a b ∧ i + 1 + a.1.length ≤ cs.length)
      (readValue (cs.drop i)) (quotedAt cs false .attributeValue i) := by
  unfold readValue quotedAt
  obtain ⟨get, nil⟩ | ⟨quote, get, cons, lt⟩ := peek_cases cs i
  · have := List.getElem?_eq_none_iff.1 get
    simp only [get, nil]
    exact fail_located _ (by omega)
  have place : i + (quote :: cs.drop (i + 1)).length = cs.length := left_drop lt rfl
  simp only [get, cons]
  split
  · obtain ⟨failed, failed'⟩ | ⟨text, j, found, found', least, most⟩ :=
      related_cases (@insideAt_related cs (i + 1) false quote)
    · rw [failed, failed']
      exact fail_located _ place
    · have fits : i + 1 + text.length ≤ cs.length := by
        have := length_text found
        simp only [List.length_drop] at this
        omega
      rw [found, found']
      exact .ok ⟨.intro text (by omega) most, fits⟩
  · exact fail_located _ place

theorem attributeAt_agrees (tag : Tag) {c : Char} (get : cs[i]? = some c)
    (name : isNameChar c = true) :
    Agrees (Located cs.length) (Reached cs (i + 1))
      (readAttribute Expression.standard tag (cs.drop i)) (attributeAt cs tag i) := by
  obtain ⟨lt, rfl⟩ := List.getElem?_eq_some_iff.1 get
  have named : i + 1 ≤ pass isNameChar cs i := by
    rw [pass_succ get name]
    exact le_pass
  have bounded : pass isNameChar cs i ≤ cs.length := pass_le (Nat.le_of_lt lt)
  unfold readAttribute attributeAt
  rw [nameAt_eq (Nat.le_of_lt lt), ok_bind, ← drop_pass, trimStart_drop]
  dsimp only
  generalize String.ofList ((cs.drop i).takeWhile isNameChar) = name
  generalize pass isNameChar cs i = j at *
  have skipped : j ≤ pass isSpace cs j := le_pass
  have bounded := pass_le (p := isSpace) bounded
  generalize pass isSpace cs j = j' at *
  obtain ⟨get', cons, lt'⟩ | ⟨get', other⟩ := find_cases cs '=' j'
  · simp only [cons, get', beq_self_eq_true, if_true, trimStart_drop]
    have skipped : j' + 1 ≤ pass isSpace cs (j' + 1) := le_pass
    have bounded := pass_le (p := isSpace) (Nat.succ_le_of_lt lt')
    generalize pass isSpace cs (j' + 1) = q at *
    apply (quotedAt_agrees bounded).bind
    rintro ⟨value, rest⟩ ⟨value', k⟩ ⟨reached, fits⟩
    cases reached with
    | intro _ least most =>
      simp only []
      split
      · have whole : q + 1 + ((cs.drop q).length - 1) = cs.length := by
          simp only [List.length_drop]
          omega
        apply (expressionAt_agrees .test whole (by dsimp only at fits; omega)).bind
        rintro e _ rfl
        exact .ok (.intro _ (by omega) most)
      · rw [testOf_eq]
        exact .ok (.intro _ (by omega) most)
  · simp only [get', Bool.false_eq_true, if_false]
    exact .ok (.intro _ (by omega) bounded)

theorem attributesAt_agrees {opening left depth : Nat} (whole : opening + left = cs.length)
    (tag : Tag) (most : i ≤ cs.length) (enough : cs.length - i < depth) :
    Agrees (Located cs.length) (Reached cs (i + 1))
      (readAttributes Expression.standard left tag (cs.drop i))
      (attributesAt cs opening depth tag i) := by
  induction depth generalizing tag i with
  | zero => omega
  | succ depth ih =>
    have skipped : i ≤ pass isSpace cs i := le_pass
    have bounded := pass_le (p := isSpace) most
    rw [readAttributes_eq, attributesAt, trimStart_drop]
    dsimp only
    generalize pass isSpace cs i = j at *
    obtain ⟨get, nil⟩ | ⟨c, get, cons, lt⟩ := peek_cases cs j
    · simp only [get, nil]
      exact fail_located _ whole
    simp only [get, cons]
    split
    · exact .ok (.intro tag (by omega) lt)
    split
    · next name =>
      rw [← cons]
      apply (attributeAt_agrees tag get name).bind_reached
      intro tag k least most
      exact (ih tag most (by omega)).earlier (by omega)
    · exact fail_located _ (left_drop lt rfl)

theorem tagAt_agrees {options : Options} (engine : options.engine = Expression.standard)
    (lt : i < cs.length) :
    Agrees (Located cs.length) (Reached cs (i + 1)) (readTag options (cs.drop (i + 1)))
      (tagAt options cs i) := by
  unfold readTag tagAt
  have skipped : i + 1 ≤ pass isSpace cs (i + 1) := le_pass
  have bounded := pass_le (p := isSpace) (Nat.succ_le_of_lt lt)
  rw [trimStart_drop]
  dsimp only
  generalize pass isSpace cs (i + 1) = start at *
  have named : start ≤ pass isNameChar cs start := le_pass
  have bounded' := pass_le (p := isNameChar) bounded
  rw [nameAt_eq bounded, ok_bind, ← drop_pass, engine]
  dsimp only
  generalize pass isNameChar cs start = j at *
  split
  · exact (attributesAt_agrees (left_drop lt rfl) _ bounded' (by omega)).earlier (by omega)
  · apply fail_located
    simp only [List.length_drop]
    omega

end

/-! ## Atoms -/

section

variable (options : Options) (cs : List Char)

/-- Reads a literal. -/
def literalAt (i : Nat) : Run Fault (Atom × Nat) := do
  let (text, j) ← quotedAt cs true .literal i
  let tokens := (options.tokenizer.tokens (String.ofList text)).map (·.text)
  if tokens.isEmpty then fail (.malformed .emptyLiteral i)
  else .ok (.literal (String.ofList text) tokens, j)

/-- Reads a regular expression. -/
def regexAt (i : Nat) : Run Fault (Atom × Nat) := do
  let (regex, j) ← quotedAt cs false .regex i
  if regex.isEmpty then fail (.malformed .emptyRegex i)
  else if (Regex.parse? (wholly regex)).isNone then fail (.malformed .invalidRegex i)
  else .ok (.regex (String.ofList regex), j)

/-- Reads the atom that starts with `c` at `i`. -/
def atomAt (c : Char) (i : Nat) : Run Fault (Atom × Nat) :=
  if c == '\'' then literalAt options cs i
  else if c == '"' then regexAt cs i
  else if c == '<' then (tagAt options cs i).map fun (tag, j) => (.tag tag, j)
  else fail (.malformed (.unexpectedCharacter c) i)

variable {options cs} {i : Nat}

theorem quotedAt_eq {strict : Bool} {part : QuotedPart} {quote : Char} (get : cs[i]? = some quote)
    (isQuote : (quote == '\'' || quote == '"') = true) :
    quotedAt cs strict part i =
      match insideAt cs strict quote (i + 1) with
      | some read => .ok read
      | none => fail (.malformed (.unterminated part) i) := by
  simp only [quotedAt, get, isQuote, if_true]

theorem literalAt_agrees (get : cs[i]? = some '\'') :
    Agrees (Located cs.length) (Reached cs (i + 1))
      (readLiteral options.tokenizer (cs.drop (i + 1))) (literalAt options cs i) := by
  obtain ⟨lt, -⟩ := List.getElem?_eq_some_iff.1 get
  have place := left_drop lt rfl
  unfold readLiteral literalAt
  rw [quotedAt_eq get rfl]
  obtain ⟨failed, failed'⟩ | ⟨text, j, found, found', least, most⟩ :=
    related_cases (@insideAt_related cs (i + 1) true '\'')
  · rw [failed, failed']
    exact fail_located _ place
  · rw [found, found', ok_bind]
    dsimp only
    split
    · exact fail_located _ place
    · exact .ok (.intro _ (by omega) most)

theorem regexAt_agrees (get : cs[i]? = some '"') :
    Agrees (Located cs.length) (Reached cs (i + 1)) (readRegex (cs.drop (i + 1)))
      (regexAt cs i) := by
  obtain ⟨lt, -⟩ := List.getElem?_eq_some_iff.1 get
  have place := left_drop lt rfl
  unfold readRegex regexAt
  rw [quotedAt_eq get rfl]
  obtain ⟨failed, failed'⟩ | ⟨text, j, found, found', least, most⟩ :=
    related_cases (@insideAt_related cs (i + 1) false '"')
  · rw [failed, failed']
    exact fail_located _ place
  · rw [found, found', ok_bind]
    dsimp only
    split
    · exact fail_located _ place
    split
    · exact fail_located _ place
    · exact .ok (.intro _ (by omega) most)

theorem atomAt_agrees (engine : options.engine = Expression.standard) {c : Char}
    (get : cs[i]? = some c) :
    Agrees (Located cs.length) (Reached cs (i + 1)) (readAtom options c (cs.drop (i + 1)))
      (atomAt options cs c i) := by
  obtain ⟨lt, -⟩ := List.getElem?_eq_some_iff.1 get
  unfold readAtom atomAt
  split
  · next quote => exact literalAt_agrees (by rw [get, eq_of_beq quote])
  split
  · next quote => exact regexAt_agrees (by rw [get, eq_of_beq quote])
  split
  · exact (tagAt_agrees engine lt).map fun _ _ reached => reached.map Atom.tag
  · exact fail_located _ (left_drop lt rfl)

end

end SpanSearch.Pattern.Cursor
