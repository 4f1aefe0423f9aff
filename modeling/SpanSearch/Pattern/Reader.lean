import SpanSearch.Expression.Engine
import SpanSearch.Number.Read
import SpanSearch.Pattern.Basic
import SpanSearch.Pattern.Cause
import SpanSearch.Pattern.Quoted
import SpanSearch.Regex.Parser
import SpanSearch.Tokenizer

/-! # Reading the pieces of a pattern

Each reader takes the characters of a pattern from some place on and gives back those it leaves,
of which there are never more. A failure is located by the number of characters that were left, so
it always lies within the pattern.
-/

namespace SpanSearch.Pattern

open Unicode

/-- Why a pattern cannot be read. -/
inductive Trouble where
  /-- The cause, with the number of characters from the place of the error on. -/
  | malformed (cause : PatternCause) (left : Nat)
  /-- The engine for expressions refuses one. -/
  | refused (message : String)
  deriving DecidableEq

/-- What patterns are compiled with. -/
structure Options where
  tokenizer : Tokenizer
  engine : Expression.Engine
  /-- The types that tags may have, if these are limited. -/
  knownTypes : Option (List String)

/-- An attempt to read a piece. -/
abbrev Attempt := Except Trouble

theorem length_trimStart (cs : List Char) : (trimStart cs).length ≤ cs.length :=
  (List.dropWhile_suffix _).length_le

theorem length_dropWhile (p : Char → Bool) (cs : List Char) :
    (cs.dropWhile p).length ≤ cs.length :=
  (List.dropWhile_suffix _).length_le

/-- Reads the expression that a text writes. `left` is the number of characters of the pattern from
the start of the expression on. -/
def readExpression (engine : Expression.Engine) (place : ExpressionPlace) (left : Nat)
    (text : List Char) : Attempt Expression :=
  match engine (String.ofList text) with
  | .ok e => .ok e
  | .error (.malformed cause offset) =>
    .error (.malformed (.invalidExpression place cause) (left - offset))
  | .error (.refused message) => .error (.refused message)

/-- What a value in a tag asks for. An empty value or a star asks for any value, and a value in
parentheses for one of several. -/
def valueTest (value : List Char) : ValueTest :=
  if value.isEmpty || value == ['*'] then .present
  else if value.head? == some '(' && value.getLast? == some ')' && 2 < value.length then
    .oneOf (alternatives [] (value.drop 1).dropLast)
  else .oneOf [String.ofList value]
where
  /-- The texts between bars. `part` is the reverse of the one that is open. -/
  alternatives (part : List Char) : List Char → List String
    | [] => [String.ofList part.reverse]
    | c :: rest =>
      if c == '|' then String.ofList part.reverse :: alternatives [] rest
      else alternatives (c :: part) rest

/-- Reads the value of an attribute between quotes. -/
def readValue (cs : List Char) : Attempt (List Char × List Char) :=
  match cs with
  | [] => .error (.malformed (.missingQuote .attributeValue) 0)
  | quote :: rest =>
    if quote == '\'' || quote == '"' then
      match Quoted.read false quote rest with
      | some (value, rest) => .ok (value, rest)
      | none => .error (.malformed (.unterminated .attributeValue) cs.length)
    else .error (.malformed (.missingQuote .attributeValue) cs.length)

theorem readValue_length {cs value rest : List Char} (h : readValue cs = .ok (value, rest)) :
    rest.length < cs.length := by
  unfold readValue at h
  grind [→ Quoted.read_length]

/-- The attribute that holds the test of a tag. -/
def testAttribute : String := "test"

/-- Reads an attribute of a tag, of which `cs` has the first character of the name, and adds it to
the tag. A name by itself asks for the attribute to be present. -/
def readAttribute (engine : Expression.Engine) (tag : Tag) (cs : List Char) :
    Attempt (Tag × List Char) := do
  let name := String.ofList (cs.takeWhile isNameChar)
  match trimStart (cs.dropWhile isNameChar) with
  | '=' :: rest =>
    let quoted := trimStart rest
    let (value, rest) ← readValue quoted
    if name == testAttribute then
      let e ← readExpression engine .test (quoted.length - 1) value
      .ok ({ tag with test := some e }, rest)
    else .ok ({ tag with constraints := tag.constraints ++ [⟨name, valueTest value⟩] }, rest)
  | rest => .ok ({ tag with constraints := tag.constraints ++ [⟨name, .present⟩] }, rest)

theorem readAttribute_length {engine : Expression.Engine} {tag tag' : Tag} {c : Char}
    {cs rest : List Char} (name : isNameChar c = true)
    (h : readAttribute engine tag (c :: cs) = .ok (tag', rest)) :
    rest.length ≤ cs.length := by
  unfold readAttribute at h
  have shorter := length_trimStart (cs.dropWhile isNameChar)
  have := length_dropWhile isNameChar cs
  simp only [List.dropWhile_cons, name, if_true] at h
  split at h
  · next inner eq =>
    have := length_trimStart inner
    cases hv : readValue (trimStart inner) with
    | error t => simp [hv, bind, Except.bind] at h
    | ok v =>
      have := readValue_length hv
      simp only [eq, List.length_cons] at shorter
      simp only [hv, bind, Except.bind] at h
      split at h
      · split at h
        · cases h
        · cases h; omega
      · cases h; omega
  · cases h; omega

/-- Reads the attributes of a tag and its closing bracket. `left` is the number of characters from
the opening bracket on. -/
def readAttributes (engine : Expression.Engine) (left : Nat) (tag : Tag) (cs : List Char) :
    Attempt (Tag × List Char) :=
  match _trimmed : trimStart cs with
  | [] => .error (.malformed .unterminatedTag left)
  | c :: rest =>
    if c == '>' then .ok (tag, rest)
    else if _name : isNameChar c then
      match _read : readAttribute engine tag (c :: rest) with
      | .error t => .error t
      | .ok (tag, rest) => readAttributes engine left tag rest
    else .error (.malformed (.unexpectedInTag c) (rest.length + 1))
termination_by cs.length
decreasing_by
  have shorter := length_trimStart cs
  have := readAttribute_length _name _read
  simp only [_trimmed, List.length_cons] at shorter
  omega

theorem readAttributes_eq (engine : Expression.Engine) (left : Nat) (tag : Tag) (cs : List Char) :
    readAttributes engine left tag cs =
      match trimStart cs with
      | [] => .error (.malformed .unterminatedTag left)
      | c :: rest =>
        if c == '>' then .ok (tag, rest)
        else if isNameChar c then do
          let (tag, rest) ← readAttribute engine tag (c :: rest)
          readAttributes engine left tag rest
        else .error (.malformed (.unexpectedInTag c) (rest.length + 1)) := by
  conv => lhs; rw [readAttributes]
  split
  · next trimmed => rw [trimmed]
  · next trimmed =>
    rw [trimmed]
    dsimp only
    split
    · rfl
    split
    · split
      · next read => rw [read]; rfl
      · next read => rw [read]; rfl
    · rfl

theorem readAttributes_length {engine : Expression.Engine} {left : Nat} {tag tag' : Tag}
    {cs rest : List Char} (h : readAttributes engine left tag cs = .ok (tag', rest)) :
    rest.length < cs.length := by
  fun_induction readAttributes engine left tag cs with
  | case1 => cases h
  | case2 _ cs c tail eq _ =>
    cases h
    have := length_trimStart cs
    simp only [eq, List.length_cons] at this
    omega
  | case3 => cases h
  | case4 _ cs c tail eq _ name _ rest' read ih =>
    have := ih h
    have := readAttribute_length name read
    have := length_trimStart cs
    simp only [eq, List.length_cons] at this
    omega
  | case5 => cases h

/-- Whether a type may stand in a tag: it starts with a letter or a low line and, if types are
limited, is one of the known ones. -/
def Options.allowsType (options : Options) (type : List Char) : Bool :=
  type.head?.any (fun c => isAlphabetic c || c == '_')
    && options.knownTypes.all (·.contains (String.ofList type))

/-- Reads a tag after its opening bracket. -/
def readTag (options : Options) (cs : List Char) : Attempt (Tag × List Char) :=
  let type := (trimStart cs).takeWhile isNameChar
  if options.allowsType type then
    readAttributes options.engine (cs.length + 1) ⟨String.ofList type, [], none⟩
      ((trimStart cs).dropWhile isNameChar)
  else .error (.malformed (.unknownType (String.ofList type)) (trimStart cs).length)

theorem readTag_length {options : Options} {cs rest : List Char} {tag : Tag}
    (h : readTag options cs = .ok (tag, rest)) : rest.length ≤ cs.length := by
  unfold readTag at h
  dsimp only at h
  split at h
  · have := readAttributes_length h
    have := length_dropWhile isNameChar (trimStart cs)
    have := length_trimStart cs
    omega
  · cases h

/-- Reads a literal after its opening quote. -/
def readLiteral (tokenizer : Tokenizer) (cs : List Char) : Attempt (Atom × List Char) :=
  match Quoted.read true '\'' cs with
  | none => .error (.malformed (.unterminated .literal) (cs.length + 1))
  | some (text, rest) =>
    let tokens := (tokenizer.tokens (String.ofList text)).map (·.text)
    if tokens.isEmpty then .error (.malformed .emptyLiteral (cs.length + 1))
    else .ok (.literal (String.ofList text) tokens, rest)

/-- The expression that a text must match entirely if a part of it matches this one. -/
def wholly (regex : List Char) : List Char := "^(?:".toList ++ regex ++ ")$".toList

/-- Reads a regular expression after its opening quote. -/
def readRegex (cs : List Char) : Attempt (Atom × List Char) :=
  match Quoted.read false '"' cs with
  | none => .error (.malformed (.unterminated .regex) (cs.length + 1))
  | some (regex, rest) =>
    if regex.isEmpty then .error (.malformed .emptyRegex (cs.length + 1))
    else if (Regex.parse? (wholly regex)).isNone then
      .error (.malformed .invalidRegex (cs.length + 1))
    else .ok (.regex (String.ofList regex), rest)

/-- Reads the atom that starts with `c`. -/
def readAtom (options : Options) (c : Char) (cs : List Char) : Attempt (Atom × List Char) :=
  if c == '\'' then readLiteral options.tokenizer cs
  else if c == '"' then readRegex cs
  else if c == '<' then (readTag options cs).map fun (tag, rest) => (.tag tag, rest)
  else .error (.malformed (.unexpectedCharacter c) (cs.length + 1))

theorem readAtom_length {options : Options} {c : Char} {cs rest : List Char} {a : Atom}
    (h : readAtom options c cs = .ok (a, rest)) : rest.length ≤ cs.length := by
  unfold readAtom at h
  split at h
  · unfold readLiteral at h
    grind [→ Quoted.read_length]
  · split at h
    · unfold readRegex at h
      grind [→ Quoted.read_length]
    · split at h
      · cases ht : readTag options cs with
        | error t => simp [ht, Except.map] at h
        | ok v =>
          simp only [ht, Except.map, Except.ok.injEq, Prod.mk.injEq] at h
          exact h.2 ▸ readTag_length ht
      · cases h

/-- The characters that quantifiers start with. -/
def isQuantifierMark (c : Char) : Bool := c == '?' || c == '*' || c == '+' || c == '{'

/-- The number that a text with blanks around it writes. -/
def count? (cs : List Char) : Option Nat := Number.natural? (trim cs)

/-- The bounds that the text between braces writes: a number, or a minimum and a maximum, of which
the latter may be left out. -/
def bounds? (inner : List Char) : Option Bounds := do
  let bounds ←
    match inner.dropWhile (· != ',') with
    | [] => (count? inner).map fun n => ⟨n, n⟩
    | _ :: max => do
      let min ← count? (inner.takeWhile (· != ','))
      let max ← if (trim max).isEmpty then some Bounds.unbounded else count? max
      some ⟨min, max⟩
  if bounds.max < 1 || bounds.max < bounds.min then none else some bounds

/-- Reads a quantifier that starts with the mark `c`. -/
def readBounds (c : Char) (cs : List Char) : Attempt (Bounds × List Char) :=
  if c == '?' then .ok (⟨0, 1⟩, cs)
  else if c == '*' then .ok (⟨0, Bounds.unbounded⟩, cs)
  else if c == '+' then .ok (⟨1, Bounds.unbounded⟩, cs)
  else
    match cs.dropWhile (· != '}') with
    | [] => .error (.malformed .unterminatedQuantifier (cs.length + 1))
    | _ :: rest =>
      let inner := cs.takeWhile (· != '}')
      match bounds? inner with
      | some bounds => .ok (bounds, rest)
      | none => .error (.malformed (.invalidQuantifier (String.ofList inner)) (cs.length + 1))

theorem readBounds_length {c : Char} {cs rest : List Char} {bounds : Bounds}
    (h : readBounds c cs = .ok (bounds, rest)) : rest.length ≤ cs.length := by
  unfold readBounds at h
  have := length_dropWhile (· != '}') cs
  grind

/-- Reads a quantifier, if there is one. A second one may not follow it. -/
def readQuantifier (cs : List Char) : Attempt (Bounds × List Char) :=
  match trimStart cs with
  | [] => .ok (.once, [])
  | c :: rest =>
    if isQuantifierMark c then do
      let (bounds, rest) ← readBounds c rest
      let rest := trimStart rest
      if rest.head?.any isQuantifierMark then
        .error (.malformed .repeatedQuantifier rest.length)
      else .ok (bounds, rest)
    else .ok (.once, c :: rest)

theorem readQuantifier_length {cs rest : List Char} {bounds : Bounds}
    (h : readQuantifier cs = .ok (bounds, rest)) : rest.length ≤ cs.length := by
  unfold readQuantifier at h
  have shorter := length_trimStart cs
  split at h
  · cases h; simp
  · next c tail eq =>
    simp only [eq, List.length_cons] at shorter
    split at h
    · cases hb : readBounds c tail with
      | error t => simp [hb, bind, Except.bind] at h
      | ok v =>
        have := readBounds_length hb
        have := length_trimStart v.2
        simp only [hb, bind, Except.bind] at h
        split at h
        · cases h
        · cases h; omega
    · cases h
      simpa using shorter

/-- Reads up to the parenthesis that closes one that is open already, passing over quoted text.
`depth` counts the others that are open. -/
def readBalanced (depth : Nat) (quote : Option Char) :
    List Char → Option (List Char × List Char)
  | [] => none
  | c :: rest =>
    let add := Option.map fun (text, after) => (c :: text, after)
    match quote with
    | some q => add (readBalanced depth (if c == q then none else some q) rest)
    | none =>
      if c == '\'' || c == '"' then add (readBalanced depth (some c) rest)
      else if c == '(' then add (readBalanced (depth + 1) none rest)
      else if c == ')' then
        match depth with
        | 0 => some ([], rest)
        | depth + 1 => add (readBalanced depth none rest)
      else add (readBalanced depth none rest)

theorem readBalanced_length {depth : Nat} {quote : Option Char} {cs text rest : List Char}
    (h : readBalanced depth quote cs = some (text, rest)) : rest.length < cs.length := by
  induction cs generalizing depth quote text with
  | nil => simp [readBalanced] at h
  | cons c tail ih =>
    have step {d q}
        (h : (readBalanced d q tail).map (fun (t, a) => (c :: t, a)) = some (text, rest)) :
        rest.length < (c :: tail).length := by
      obtain ⟨⟨t, r⟩, ht, heq⟩ := Option.map_eq_some_iff.1 h
      obtain ⟨-, rfl⟩ := Prod.mk.inj heq
      exact Nat.lt_succ_of_lt (ih ht)
    unfold readBalanced at h
    dsimp only at h
    split at h
    · exact step h
    · split at h
      · exact step h
      · split at h
        · exact step h
        · split at h
          · split at h
            · cases h; simp
            · exact step h
          · exact step h

/-- Reads the separator of a setter after its opening bracket. A backslash makes a closing bracket
part of it. -/
def readSeparator : List Char → Option (List Char × List Char)
  | [] => none
  | '\\' :: ']' :: rest => (readSeparator rest).map fun (text, rest) => (']' :: text, rest)
  | c :: rest =>
    if c == ']' then some ([], rest)
    else (readSeparator rest).map fun (text, rest) => (c :: text, rest)

theorem readSeparator_length {cs text rest : List Char}
    (h : readSeparator cs = some (text, rest)) : rest.length < cs.length := by
  fun_induction readSeparator cs generalizing text with
  | case1 => simp at h
  | case2 tail ih =>
    obtain ⟨⟨t, r⟩, ht, heq⟩ := Option.map_eq_some_iff.1 h
    obtain ⟨-, rfl⟩ := Prod.mk.inj heq
    have := ih ht
    simp only [List.length_cons]
    omega
  | case3 => simp_all
  | case4 c tail _ _ ih =>
    obtain ⟨⟨t, r⟩, ht, heq⟩ := Option.map_eq_some_iff.1 h
    obtain ⟨-, rfl⟩ := Prod.mk.inj heq
    have := ih ht
    simp only [List.length_cons]
    omega

/-- The policy that stands in the brackets of a setter: a letter for one that keeps one value, or
else a separator. -/
def policyOf (text : List Char) : Policy :=
  if text == ['f'] then .first
  else if text == ['l'] then .last
  else if text == ['m'] then .longest
  else .join (some (String.ofList text))

/-- Reads the name and the policy of a setter. `left` is the number of characters from its `@`
on. -/
def readTarget (left : Nat) (e : Option Expression) (cs : List Char) :
    Attempt (Setter × List Char) :=
  let name := cs.takeWhile isNameChar
  if name.isEmpty then .error (.malformed .missingName left)
  else
    match cs.dropWhile isNameChar with
    | '[' :: rest =>
      match readSeparator rest with
      | none => .error (.malformed .unterminatedSeparator (rest.length + 1))
      | some (text, rest) => .ok (⟨String.ofList name, e, policyOf text⟩, rest)
    | rest => .ok (⟨String.ofList name, e, .join none⟩, rest)

theorem readTarget_length {left : Nat} {e : Option Expression} {cs rest : List Char} {s : Setter}
    (h : readTarget left e cs = .ok (s, rest)) : rest.length ≤ cs.length := by
  unfold readTarget at h
  have := length_dropWhile isNameChar cs
  grind [→ readSeparator_length]

/-- Reads a setter after its `@`. -/
def readSetter (engine : Expression.Engine) (cs : List Char) : Attempt (Setter × List Char) :=
  let left := cs.length + 1
  match cs with
  | '(' :: inner =>
    match readBalanced 0 none inner with
    | none => .error (.malformed .unterminatedExpression cs.length)
    | some (text, rest) => do
      let e ← readExpression engine .setter inner.length text
      match rest with
      | ':' :: rest => readTarget left (some e) rest
      | rest => .error (.malformed .missingColon rest.length)
  | cs => readTarget left none cs

theorem readSetter_length {engine : Expression.Engine} {cs rest : List Char} {s : Setter}
    (h : readSetter engine cs = .ok (s, rest)) : rest.length ≤ cs.length := by
  unfold readSetter at h
  dsimp only at h
  split at h
  · next inner =>
    split at h
    · cases h
    · next text after balanced =>
      have := readBalanced_length balanced
      cases he : readExpression engine .setter inner.length text with
      | error t => simp [he, bind, Except.bind] at h
      | ok e =>
        simp only [he, bind, Except.bind] at h
        split at h
        · have := readTarget_length h
          simp only [List.length_cons] at *
          omega
        · cases h
  · exact readTarget_length h

/-- Reads setters, as many as there are. -/
def readSetters (engine : Expression.Engine) (cs : List Char) :
    Attempt (List Setter × List Char) :=
  match _trimmed : trimStart cs with
  | [] => .ok ([], [])
  | c :: rest =>
    if c == '@' then
      match _read : readSetter engine rest with
      | .error t => .error t
      | .ok (setter, rest) =>
        (readSetters engine rest).map fun (setters, rest) => (setter :: setters, rest)
    else .ok ([], c :: rest)
termination_by cs.length
decreasing_by
  have shorter := length_trimStart cs
  have := readSetter_length _read
  simp only [_trimmed, List.length_cons] at shorter
  omega

theorem readSetters_eq (engine : Expression.Engine) (cs : List Char) :
    readSetters engine cs =
      match trimStart cs with
      | '@' :: rest => do
        let (setter, rest) ← readSetter engine rest
        (readSetters engine rest).map fun (setters, rest) => (setter :: setters, rest)
      | rest => .ok ([], rest) := by
  conv => lhs; rw [readSetters]
  split
  · next trimmed => rw [trimmed]
  · next c rest trimmed =>
    rw [trimmed]
    by_cases setter : c = '@'
    · subst setter
      rw [if_pos (beq_self_eq_true '@')]
      split
      · next read => simp only [read, bind, Except.bind]
      · next read => simp only [read, bind, Except.bind]
    · rw [if_neg (by simpa using setter)]
      split
      · simp_all
      · rfl

theorem readSetters_length {engine : Expression.Engine} {cs rest : List Char} {ss : List Setter}
    (h : readSetters engine cs = .ok (ss, rest)) : rest.length ≤ cs.length := by
  fun_induction readSetters engine cs generalizing ss with
  | case1 => cases h; simp
  | case2 => cases h
  | case3 cs c tail eq _ setter after read ih =>
    have := length_trimStart cs
    have := readSetter_length read
    cases hs : readSetters engine after with
    | error t => simp [hs, Except.map] at h
    | ok v =>
      obtain ⟨later, rest'⟩ := v
      simp only [hs, Except.map, Except.ok.injEq, Prod.mk.injEq] at h
      obtain ⟨-, rfl⟩ := h
      have := ih hs
      simp only [eq, List.length_cons] at *
      omega
  | case4 cs c tail eq =>
    cases h
    have := length_trimStart cs
    simpa [eq] using this

/-- Reads what follows an element: a quantifier, if there is one, and setters. -/
def readSuffix (engine : Expression.Engine) (cs : List Char) : Attempt (Suffix × List Char) := do
  let (bounds, rest) ← readQuantifier cs
  let (setters, rest) ← readSetters engine rest
  .ok (⟨bounds, setters⟩, rest)

theorem readSuffix_length {engine : Expression.Engine} {cs rest : List Char} {s : Suffix}
    (h : readSuffix engine cs = .ok (s, rest)) : rest.length ≤ cs.length := by
  unfold readSuffix at h
  cases hq : readQuantifier cs with
  | error t => simp [hq, bind, Except.bind] at h
  | ok q =>
    cases hs : readSetters engine q.2 with
    | error t => simp [hq, hs, bind, Except.bind] at h
    | ok v =>
      simp only [hq, hs, bind, Except.bind, Except.ok.injEq, Prod.mk.injEq] at h
      have := readQuantifier_length hq
      have := readSetters_length hs
      exact h.2 ▸ by omega

end SpanSearch.Pattern
