import SpanSearch.Pattern.Printer
import SpanSearch.Proofs.Pattern.Tags

/-! # How pieces are written

Each piece of a pattern is written as a word. What words look like is told here without regard to
how they are read. The reader of pieces accepts just the words, and takes them up to their end if the
text after them cannot be taken for more of a name or for a separator.
-/

namespace SpanSearch.Pattern

open Unicode

/-! ## Setters -/

/-- Whether a text may stand between parentheses where `depth` others are open inside of them and
`quote` is the quote that is open: it closes what it opens, quoted text left aside. -/
def Balanced : Nat → Option Char → List Char → Prop
  | depth, quote, [] => depth = 0 ∧ quote = none
  | depth, some q, c :: rest => Balanced depth (if c == q then none else some q) rest
  | depth, none, c :: rest =>
    if c == '\'' || c == '"' then Balanced depth (some c) rest
    else if c == '(' then Balanced (depth + 1) none rest
    else if c == ')' then 0 < depth ∧ Balanced (depth - 1) none rest
    else Balanced depth none rest

section

variable {engine : Expression.Engine} {depth left : Nat} {quote : Option Char}
  {cs text rest after : List Char}

theorem balanced_of_read (h : readBalanced depth quote cs = some (text, rest)) :
    cs = text ++ ')' :: rest ∧ Balanced depth quote text := by
  induction cs generalizing depth quote text with
  | nil => cases h
  | cons c tail ih =>
    have step {d : Nat} {q : Option Char}
        (h : (readBalanced d q tail).map (fun found => (c :: found.1, found.2)) = some (text, rest)) :
        ∃ t, text = c :: t ∧ c :: tail = text ++ ')' :: rest ∧ Balanced d q t := by
      obtain ⟨⟨t, r⟩, read, eq⟩ := Option.map_eq_some_iff.1 h
      obtain ⟨rfl, rfl⟩ := Prod.mk.inj eq
      obtain ⟨rfl, balanced⟩ := ih read
      exact ⟨t, rfl, rfl, balanced⟩
    cases quote with
    | some q =>
      obtain ⟨t, rfl, eq, balanced⟩ := step h
      exact ⟨eq, balanced⟩
    | none =>
      unfold readBalanced at h
      dsimp only at h
      split at h
      · next isQuote =>
        obtain ⟨t, rfl, eq, balanced⟩ := step h
        exact ⟨eq, by rwa [Balanced, if_pos isQuote]⟩
      · next noQuote =>
        split at h
        · next opening =>
          obtain ⟨t, rfl, eq, balanced⟩ := step h
          exact ⟨eq, by rwa [Balanced, if_neg noQuote, if_pos opening]⟩
        · next notOpening =>
          split at h
          · next closing =>
            split at h
            · cases h
              obtain rfl : c = ')' := by simpa using closing
              exact ⟨rfl, rfl, rfl⟩
            · obtain ⟨t, rfl, eq, balanced⟩ := step h
              refine ⟨eq, ?_⟩
              rw [Balanced, if_neg noQuote, if_neg notOpening, if_pos closing]
              exact ⟨Nat.succ_pos _, balanced⟩
          · next notClosing =>
            obtain ⟨t, rfl, eq, balanced⟩ := step h
            exact ⟨eq, by rwa [Balanced, if_neg noQuote, if_neg notOpening, if_neg notClosing]⟩

theorem Balanced.read (h : Balanced depth quote text) (rest : List Char) :
    readBalanced depth quote (text ++ ')' :: rest) = some (text, rest) := by
  fun_induction Balanced depth quote text with
  | case1 depth quote =>
    obtain ⟨rfl, rfl⟩ := h
    rfl
  | case2 depth q c cs ih =>
    simp only [List.cons_append, readBalanced, ih h, Option.map_some]
  | case3 depth c cs isQuote ih =>
    simp only [List.cons_append, readBalanced, isQuote, if_true, ih h, Option.map_some]
  | case4 depth c cs noQuote opening ih =>
    simp only [List.cons_append, readBalanced, noQuote, opening, if_true, ih h, Option.map_some]
    rfl
  | case5 depth c cs noQuote notOpening closing ih =>
    obtain ⟨inside, balanced⟩ := h
    obtain ⟨depth, rfl⟩ : ∃ d, depth = d + 1 := ⟨depth - 1, by omega⟩
    rw [Nat.add_sub_cancel] at ih balanced
    simp only [List.cons_append, readBalanced, noQuote, notOpening, closing, if_true, ih balanced,
      Option.map_some]
    rfl
  | case6 depth c cs noQuote notOpening notClosing ih =>
    simp only [List.cons_append, readBalanced, noQuote, notOpening, notClosing, ih h,
      Option.map_some]
    rfl

/-- A separator as it is written, with a backslash before every closing bracket. -/
def bracketed (text : List Char) : List Char :=
  text.flatMap fun c => if c == ']' then ['\\', ']'] else [c]

@[simp] theorem bracketed_nil : bracketed [] = [] := rfl

@[simp] theorem bracketed_bracket (text : List Char) :
    bracketed (']' :: text) = '\\' :: ']' :: bracketed text := rfl

theorem bracketed_char {c : Char} (other : c ≠ ']') (text : List Char) :
    bracketed (c :: text) = c :: bracketed text := by
  simp [bracketed, other]

/-- A separator that is not empty does not start with a closing bracket. -/
theorem head_bracketed (nonempty : text ≠ []) (rest : List Char) :
    (bracketed text ++ rest).head? ≠ some ']' := by
  cases text with
  | nil => exact absurd rfl nonempty
  | cons c text =>
    by_cases isBracket : c = ']'
    · subst isBracket
      simp
    · rw [bracketed_char isBracket]
      simpa using isBracket

theorem readSeparator_char {c : Char} (other : c ≠ ']')
    (noPair : c = '\\' → cs.head? ≠ some ']') :
    readSeparator (c :: cs) = (readSeparator cs).map fun (text, rest) => (c :: text, rest) := by
  conv => lhs; unfold readSeparator
  split <;> simp_all

theorem getLast?_of_cons {c d : Char} (nonempty : text ≠ []) :
    (c :: text).getLast? = some d ↔ text.getLast? = some d := by
  cases text with
  | nil => exact absurd rfl nonempty
  | cons e text => rw [List.getLast?_cons_cons]

theorem readSeparator_bracketed (noBackslash : text.getLast? ≠ some '\\') (rest : List Char) :
    readSeparator (bracketed text ++ ']' :: rest) = some (text, rest) := by
  induction text with
  | nil => rfl
  | cons c text ih =>
    have others : text.getLast? ≠ some '\\' := fun last => noBackslash (by
      rwa [getLast?_of_cons (by rintro rfl; cases last)])
    by_cases isBracket : c = ']'
    · subst isBracket
      rw [bracketed_bracket, List.cons_append, List.cons_append, readSeparator, ih others]
      rfl
    · rw [bracketed_char isBracket, List.cons_append, readSeparator_char isBracket, ih others]
      · rfl
      · rintro rfl
        refine head_bracketed ?_ _
        rintro rfl
        exact noBackslash rfl

theorem bracketed_of_read (h : readSeparator cs = some (text, rest)) :
    cs = bracketed text ++ ']' :: rest ∧ text.getLast? ≠ some '\\' := by
  fun_induction readSeparator cs generalizing text with
  | case1 => cases h
  | case2 cs ih =>
    obtain ⟨⟨t, r⟩, read, eq⟩ := Option.map_eq_some_iff.1 h
    obtain ⟨rfl, rfl⟩ := Prod.mk.inj eq
    obtain ⟨rfl, noBackslash⟩ := ih read
    refine ⟨rfl, ?_⟩
    by_cases last : t = []
    · subst last
      decide
    · rwa [Ne, getLast?_of_cons last]
  | case3 c cs notPair closing =>
    cases h
    exact ⟨by rw [eq_of_beq closing]; rfl, by decide⟩
  | case4 c cs notPair notClosing ih =>
    obtain ⟨⟨t, r⟩, read, eq⟩ := Option.map_eq_some_iff.1 h
    obtain ⟨rfl, rfl⟩ := Prod.mk.inj eq
    obtain ⟨rfl, noBackslash⟩ := ih read
    have other : c ≠ ']' := by simpa using notClosing
    refine ⟨by rw [bracketed_char other]; rfl, ?_⟩
    by_cases last : t = []
    · subst last
      intro backslash
      obtain rfl : c = '\\' := by simpa using backslash
      exact notPair _ rfl rfl
    · rwa [Ne, getLast?_of_cons last]

/-- Whether a policy can be written: no separator ends in a backslash or is a letter that stands for
another policy. -/
def Writable : Policy → Prop
  | .join (some separator) =>
    separator.toList.getLast? ≠ some '\\' ∧ separator ≠ "f" ∧ separator ≠ "l" ∧ separator ≠ "m"
  | _ => True

theorem printPolicy_policyOf (text : List Char) :
    printPolicy (policyOf text) = '[' :: (bracketed text ++ [']']) := by
  unfold policyOf
  split
  · next same => rw [eq_of_beq same]; rfl
  · split
    · next same => rw [eq_of_beq same]; rfl
    · split
      · next same => rw [eq_of_beq same]; rfl
      · simp only [printPolicy, printSeparator, String.toList_ofList, bracketed, List.cons_append]

theorem writable_policyOf (noBackslash : text.getLast? ≠ some '\\') :
    Writable (policyOf text) := by
  have differ {letter : Char} (h : ¬ (text == [letter]) = true) :
      String.ofList text ≠ String.ofList [letter] := by
    rw [Ne, String.ofList_inj]
    simpa using h
  unfold policyOf
  split
  · trivial
  · next first =>
    split
    · trivial
    · next last =>
      split
      · trivial
      · next longest =>
        refine ⟨?_, differ first, differ last, differ longest⟩
        rwa [String.toList_ofList]

theorem policyOf_ne (text : List Char) : policyOf text ≠ .join none := by
  unfold policyOf
  split
  · nofun
  · split
    · nofun
    · split <;> nofun

/-- A policy that can be written is what its text is read as. -/
theorem Writable.exists_text {policy : Policy} (h : Writable policy) (set : policy ≠ .join none) :
    ∃ text, text.getLast? ≠ some '\\' ∧ policyOf text = policy := by
  cases policy with
  | first => exact ⟨['f'], by decide, rfl⟩
  | last => exact ⟨['l'], by decide, rfl⟩
  | longest => exact ⟨['m'], by decide, rfl⟩
  | join separator =>
    cases separator with
    | none => exact absurd rfl set
    | some separator =>
      obtain ⟨noBackslash, first, last, longest⟩ := h
      have differ {letter : Char} (h : separator ≠ String.ofList [letter]) :
          ¬ (separator.toList == [letter]) = true := by
        rw [beq_iff_eq, ← String.ofList_inj, String.ofList_toList]
        exact h
      refine ⟨separator.toList, noBackslash, ?_⟩
      rw [policyOf, if_neg (differ first), if_neg (differ last), if_neg (differ longest),
        String.ofList_toList]

/-- Whether the text after a setter cannot be taken for a part of it. -/
def Boundary (cs : List Char) : Prop := ∀ c ∈ cs.head?, isNameChar c = false ∧ c ≠ '['

theorem Boundary.endsName (boundary : Boundary cs) : EndsName cs := fun c first =>
  (boundary c first).1

theorem endsName_printPolicy {policy : Policy} (set : policy = .join none → EndsName cs) :
    EndsName (printPolicy policy ++ cs) := by
  intro c first
  cases policy with
  | join separator =>
    cases separator with
    | none => exact set rfl c first
    | some separator =>
      obtain rfl : '[' = c := by simpa [printPolicy] using first
      decide
  | _ =>
    obtain rfl : '[' = c := by simpa [printPolicy] using first
    decide

/-- A name without brackets is read up to where it ends, and no brackets open there. -/
theorem boundary_dropWhile (noBracket : ∀ tail, cs.dropWhile isNameChar ≠ '[' :: tail) :
    Boundary (cs.dropWhile isNameChar) := by
  intro c first
  refine ⟨endsName_dropWhile cs c first, ?_⟩
  rintro rfl
  obtain ⟨tail, opens⟩ := List.head?_eq_some_iff.1 first
  exact noBracket tail opens

theorem target_of_read {e : Option Expression} {s : Setter}
    (h : readTarget left e cs = .ok (s, rest)) :
    ∃ name policy, IsName name ∧ Writable policy ∧ (policy = .join none → Boundary rest)
      ∧ s = ⟨String.ofList name, e, policy⟩ ∧ cs = name ++ (printPolicy policy ++ rest) := by
  have whole := (List.takeWhile_append_dropWhile (p := isNameChar) (l := cs)).symm
  unfold readTarget at h
  dsimp only at h
  split at h
  · cases h
  · next nonempty =>
    have isName : IsName (cs.takeWhile isNameChar) :=
      ⟨by simpa using nonempty, fun _ mem => List.mem_takeWhile_imp mem⟩
    split at h
    · next tail bracket =>
      split at h
      · cases h
      · next text after read =>
        cases h
        obtain ⟨rfl, noBackslash⟩ := bracketed_of_read read
        refine ⟨_, _, isName, writable_policyOf noBackslash,
          fun unset => absurd unset (policyOf_ne _), rfl, ?_⟩
        rw [printPolicy_policyOf, List.cons_append, List.append_assoc, List.singleton_append,
          ← bracket]
        exact whole
    · next noBracket =>
      cases h
      exact ⟨_, .join none, isName, trivial, fun _ => boundary_dropWhile noBracket, rfl, whole⟩

theorem readTarget_written {e : Option Expression} {name : List Char} {policy : Policy}
    (isName : IsName name) (writable : Writable policy)
    (boundary : policy = .join none → Boundary rest) :
    readTarget left e (name ++ (printPolicy policy ++ rest))
      = .ok (⟨String.ofList name, e, policy⟩, rest) := by
  have ends := endsName_printPolicy fun unset => (boundary unset).endsName
  have nonempty : name.isEmpty = false := by simpa using isName.nonempty
  unfold readTarget
  rw [takeWhile_name isName.chars ends, dropWhile_name isName.chars ends]
  simp only [nonempty, Bool.false_eq_true, if_false]
  by_cases unset : policy = .join none
  · subst unset
    simp only [printPolicy, List.nil_append]
    split
    · next tail => exact absurd rfl (boundary rfl '[' rfl).2
    · rfl
  · obtain ⟨text, noBackslash, rfl⟩ := writable.exists_text unset
    rw [printPolicy_policyOf, List.cons_append, List.append_assoc, List.singleton_append]
    simp only [readSeparator_bracketed noBackslash]

/-- Whether a text writes the expression of a setter, or writes none. -/
inductive Scope (engine : Expression.Engine) : List Char → Option Expression → Prop
  | none : Scope engine [] none
  | some {text : List Char} {e : Expression} (balanced : Balanced 0 none text)
      (read : engine (String.ofList text) = .ok e) :
      Scope engine ('(' :: (text ++ [')', ':'])) (some e)

theorem readSetter_plain (plain : ∀ inner, cs ≠ '(' :: inner) :
    readSetter engine cs = readTarget (cs.length + 1) none cs := by
  unfold readSetter
  split
  · next inner => exact absurd rfl (plain inner)
  · rfl

theorem readSetter_name {name : List Char} (isName : IsName name) (cs : List Char) :
    readSetter engine (name ++ cs) = readTarget ((name ++ cs).length + 1) none (name ++ cs) := by
  refine readSetter_plain fun inner opens => ?_
  obtain ⟨c, name, rfl⟩ := List.exists_cons_of_ne_nil isName.nonempty
  have first := isName.chars c (by simp)
  obtain rfl : c = '(' := (List.cons.inj opens).1
  exact absurd first (by decide)

theorem readSetter_scope (balanced : Balanced 0 none text) (cs : List Char) :
    readSetter engine ('(' :: (text ++ ')' :: ':' :: cs))
      = readExpression engine .setter (text ++ ')' :: ':' :: cs).length text >>= fun e =>
          readTarget (('(' :: (text ++ ')' :: ':' :: cs)).length + 1) (some e) cs := by
  unfold readSetter
  simp only [balanced.read]

theorem setter_of_read {s : Setter} (h : readSetter engine cs = .ok (s, rest)) :
    ∃ scope name, Scope engine scope s.expression ∧ IsName name ∧ Writable s.policy
      ∧ (s.policy = .join none → Boundary rest)
      ∧ s.name = String.ofList name ∧ cs = scope ++ (name ++ (printPolicy s.policy ++ rest)) := by
  unfold readSetter at h
  dsimp only at h
  split at h
  · next inner =>
    split at h
    · cases h
    · next text after balanced =>
      obtain ⟨e, expression, h⟩ := bind_eq_ok.1 h
      split at h
      · next tail =>
        obtain ⟨name, policy, isName, writable, boundary, rfl, rfl⟩ := target_of_read h
        obtain ⟨rfl, balanced'⟩ := balanced_of_read balanced
        refine ⟨_, name, .some balanced' (readExpression_eq_ok.1 expression), isName, writable,
          boundary, rfl, ?_⟩
        simp only [List.cons_append, List.append_assoc, List.nil_append]
      · cases h
  · obtain ⟨name, policy, isName, writable, boundary, rfl, rfl⟩ := target_of_read h
    exact ⟨[], name, .none, isName, writable, boundary, rfl, rfl⟩

theorem readSetter_written {scope name : List Char} {e : Option Expression} {policy : Policy}
    (inScope : Scope engine scope e) (isName : IsName name) (writable : Writable policy)
    (boundary : policy = .join none → Boundary rest) :
    readSetter engine (scope ++ (name ++ (printPolicy policy ++ rest)))
      = .ok (⟨String.ofList name, e, policy⟩, rest) := by
  cases inScope with
  | none => exact (readSetter_name isName _).trans (readTarget_written isName writable boundary)
  | @some text e balanced read =>
    simp only [List.cons_append, List.append_assoc, List.nil_append]
    rw [readSetter_scope balanced]
    exact bind_eq_ok.2 ⟨e, readExpression_eq_ok.2 read, readTarget_written isName writable boundary⟩

end

/-! ## Words -/

/-- Whether a text writes a piece of a pattern. -/
inductive Word (options : Options) : List Char → Piece → Prop
  | opening : Word options ['('] .opening
  | closing : Word options [')'] .closing
  | bar : Word options ['|'] .bar
  | literal {raw : List Char} (inside : Quoted.Inside '\'' raw)
      (tokens : options.tokenizer.tokens (String.ofList (Quoted.meaning true '\'' raw)) ≠ []) :
      Word options ('\'' :: (raw ++ ['\''])) (.atom (.literal
        (String.ofList (Quoted.meaning true '\'' raw))
        ((options.tokenizer.tokens (String.ofList (Quoted.meaning true '\'' raw))).map (·.text))))
  | regex {raw : List Char} (inside : Quoted.Inside '"' raw) (nonempty : raw ≠ [])
      (valid : (Regex.parse? (wholly (Quoted.meaning false '"' raw))).isSome = true) :
      Word options ('"' :: (raw ++ ['"']))
        (.atom (.regex (String.ofList (Quoted.meaning false '"' raw))))
  | tag {text : List Char} {tag : Tag} (written : TagText options text tag) :
      Word options ('<' :: text) (.atom (.tag tag))
  | optional : Word options ['?'] (.bounds ⟨0, 1⟩)
  | star : Word options ['*'] (.bounds ⟨0, Bounds.unbounded⟩)
  | plus : Word options ['+'] (.bounds ⟨1, Bounds.unbounded⟩)
  | braces {inner : List Char} {b : Bounds} (within : '}' ∉ inner) (writes : bounds? inner = some b) :
      Word options ('{' :: (inner ++ ['}'])) (.bounds b)
  | setter {scope name : List Char} {e : Option Expression} {policy : Policy}
      (inScope : Scope options.engine scope e) (isName : IsName name) (writable : Writable policy) :
      Word options ('@' :: (scope ++ (name ++ printPolicy policy)))
        (.setter ⟨String.ofList name, e, policy⟩)

section

variable {options : Options} {c : Char} {cs rest w : List Char} {p : Piece}

theorem meaning_eq_nil {strict : Bool} {quote : Char} {raw : List Char} :
    Quoted.meaning strict quote raw = [] ↔ raw = [] := by
  constructor
  · intro h
    unfold Quoted.meaning at h
    split at h
    · split at h <;> cases h
    · cases h
    · rfl
  · rintro rfl
    rfl

theorem atom_of_read {a : Atom} (h : readAtom options c cs = .ok (a, rest)) :
    ∃ w, c :: cs = w ++ rest ∧ Word options w (.atom a) := by
  unfold readAtom at h
  split at h
  · next same =>
    obtain rfl : c = '\'' := by simpa using same
    unfold readLiteral at h
    split at h
    · cases h
    · next text after read =>
      dsimp only at h
      split at h
      · cases h
      · next filled =>
        cases h
        obtain ⟨raw, inside, rfl, rfl⟩ := Quoted.inside_of_read read
        exact ⟨'\'' :: (raw ++ ['\'']), by simp, .literal inside (by simpa using filled)⟩
  · split at h
    · next same =>
      obtain rfl : c = '"' := by simpa using same
      unfold readRegex at h
      split at h
      · cases h
      · next regex after read =>
        obtain ⟨raw, inside, rfl, rfl⟩ := Quoted.inside_of_read read
        split at h
        · cases h
        · next nonempty =>
          split at h
          · cases h
          · next valid =>
            cases h
            refine ⟨'"' :: (raw ++ ['"']), by simp, .regex inside ?_ ?_⟩
            · rintro rfl
              exact nonempty rfl
            · simpa [Option.isSome_iff_ne_none] using valid
    · split at h
      · next same =>
        obtain rfl : c = '<' := by simpa using same
        obtain ⟨⟨tag, after⟩, read, eq⟩ := map_eq_ok.1 h
        cases eq
        obtain ⟨text, rfl, written⟩ := readTag_eq_ok.1 read
        exact ⟨'<' :: text, rfl, .tag written⟩
      · cases h

theorem dropWhile_brace {d : Char} (h : cs.dropWhile (· != '}') = d :: rest) :
    '}' ∉ cs.takeWhile (· != '}') ∧ cs = cs.takeWhile (· != '}') ++ '}' :: rest := by
  refine ⟨fun mem => by simpa using List.mem_takeWhile_imp mem, ?_⟩
  have first := List.head?_dropWhile_not (· != '}') cs
  rw [h] at first
  obtain rfl : d = '}' := by simpa using first
  rw [← h]
  exact List.takeWhile_append_dropWhile.symm

theorem bounds_of_read {b : Bounds} (mark : isQuantifierMark c = true)
    (h : readBounds c cs = .ok (b, rest)) :
    ∃ w, c :: cs = w ++ rest ∧ Word options w (.bounds b) := by
  simp only [isQuantifierMark, Bool.or_eq_true, beq_iff_eq] at mark
  rcases mark with ((rfl | rfl) | rfl) | rfl
  · cases h
    exact ⟨['?'], rfl, .optional⟩
  · cases h
    exact ⟨['*'], rfl, .star⟩
  · cases h
    exact ⟨['+'], rfl, .plus⟩
  · unfold readBounds at h
    simp only [Char.reduceBEq, Bool.false_eq_true, if_false] at h
    split at h
    · cases h
    · next tail found =>
      split at h
      · next writes =>
        cases h
        obtain ⟨within, eq⟩ := dropWhile_brace found
        refine ⟨_, ?_, .braces within writes⟩
        rw [List.cons_append, List.append_assoc, List.singleton_append, ← eq]
      · cases h

theorem readBounds_braces {inner : List Char} {b : Bounds} (within : '}' ∉ inner)
    (writes : bounds? inner = some b) :
    readBounds '{' (inner ++ '}' :: rest) = .ok (b, rest) := by
  have others : ∀ c ∈ inner, (c != '}') = true := fun c mem => by
    rw [bne_iff_ne]
    rintro rfl
    exact within mem
  unfold readBounds
  rw [List.dropWhile_append_of_pos others, List.takeWhile_append_of_pos others]
  simp [writes]

/-- The reader of pieces takes a word off the text. -/
theorem word_of_readPiece (h : readPiece options c cs = .ok (p, rest)) :
    ∃ w, c :: cs = w ++ rest ∧ Word options w p := by
  have kind := readPiece_kind h
  cases p with
  | opening =>
    obtain rfl : c = '(' := kind
    cases h
    exact ⟨['('], rfl, .opening⟩
  | closing =>
    obtain rfl : c = ')' := kind
    cases h
    exact ⟨[')'], rfl, .closing⟩
  | bar =>
    obtain rfl : c = '|' := kind
    cases h
    exact ⟨['|'], rfl, .bar⟩
  | atom a =>
    obtain ⟨opening, closing, bar, setter, mark⟩ := kind
    rw [readPiece_atom opening closing bar setter mark] at h
    obtain ⟨_, read, eq⟩ := map_eq_ok.1 h
    cases eq
    exact atom_of_read read
  | bounds b =>
    rw [readPiece_bounds kind] at h
    obtain ⟨_, read, eq⟩ := map_eq_ok.1 h
    cases eq
    exact bounds_of_read kind read
  | setter s =>
    obtain rfl : c = '@' := kind
    obtain ⟨⟨⟨_, e, policy⟩, after⟩, read, eq⟩ := map_eq_ok.1 (readPiece_setter.symm.trans h)
    cases eq
    obtain ⟨scope, name, inScope, isName, writable, -, rfl, rfl⟩ := setter_of_read read
    refine ⟨_, ?_, .setter inScope isName writable⟩
    simp only [List.cons_append, List.append_assoc]

/-- A word is read to its end if the text after it does not go on with it. -/
theorem Word.read (h : Word options w p) (boundary : Boundary rest) :
    ∃ c cs, w ++ rest = c :: cs ∧ isSpace c = false ∧ readPiece options c cs = .ok (p, rest) := by
  cases h with
  | opening => exact ⟨'(', rest, rfl, by decide, rfl⟩
  | closing => exact ⟨')', rest, rfl, by decide, rfl⟩
  | bar => exact ⟨'|', rest, rfl, by decide, rfl⟩
  | @literal raw inside tokens =>
    refine ⟨'\'', raw ++ '\'' :: rest, by simp, by decide, ?_⟩
    rw [readPiece_atom (by decide) (by decide) (by decide) (by decide) (by decide)]
    refine map_eq_ok.2 ⟨(_, rest), ?_, rfl⟩
    simp [readAtom, readLiteral, inside.read true (by decide), tokens]
  | @regex raw inside nonempty valid =>
    refine ⟨'"', raw ++ '"' :: rest, by simp, by decide, ?_⟩
    rw [readPiece_atom (by decide) (by decide) (by decide) (by decide) (by decide)]
    refine map_eq_ok.2 ⟨(_, rest), ?_, rfl⟩
    have nonempty : Quoted.meaning false '"' raw ≠ [] := fun h => nonempty (meaning_eq_nil.1 h)
    have valid : Regex.parse? (wholly (Quoted.meaning false '"' raw)) ≠ none := by
      rwa [Option.isSome_iff_ne_none] at valid
    simp [readAtom, readRegex, inside.read false (by decide), nonempty, valid]
  | @tag text tag written =>
    refine ⟨'<', text ++ rest, rfl, by decide, ?_⟩
    rw [readPiece_atom (by decide) (by decide) (by decide) (by decide) (by decide)]
    refine map_eq_ok.2 ⟨(_, rest), ?_, rfl⟩
    exact map_eq_ok.2 ⟨(_, rest), readTag_eq_ok.2 ⟨text, rfl, written⟩, rfl⟩
  | optional => exact ⟨'?', rest, rfl, by decide, rfl⟩
  | star => exact ⟨'*', rest, rfl, by decide, rfl⟩
  | plus => exact ⟨'+', rest, rfl, by decide, rfl⟩
  | @braces inner b within writes =>
    refine ⟨'{', inner ++ '}' :: rest, by simp, by decide, ?_⟩
    rw [readPiece_bounds (by decide)]
    exact map_eq_ok.2 ⟨_, readBounds_braces within writes, rfl⟩
  | @setter scope name e policy inScope isName writable =>
    refine ⟨'@', scope ++ (name ++ (printPolicy policy ++ rest)), by simp, by decide, ?_⟩
    rw [readPiece_setter]
    exact map_eq_ok.2 ⟨_, readSetter_written inScope isName writable fun _ => boundary, rfl⟩

end

/-! ## Rows of words -/

/-- Whether a text is a row of words that write pieces, with white space around them. -/
inductive Written (options : Options) : List Char → List Piece → Prop
  | nil {b : List Char} (blank : Blank b) : Written options b []
  | cons {b w cs : List Char} {p : Piece} {ps : List Piece} (blank : Blank b)
      (word : Word options w p) (others : Written options cs ps) :
      Written options (b ++ (w ++ cs)) (p :: ps)

section

variable {options : Options} {cs w b : List Char} {p : Piece} {ps : List Piece}

/-- Words start with characters that no word goes on with. -/
theorem Word.starts (h : Word options w p) :
    ∃ c rest, w = c :: rest ∧ isSpace c = false ∧ isNameChar c = false ∧ c ≠ '[' := by
  cases h <;> exact ⟨_, _, rfl, by decide, by decide, by decide⟩

theorem Blank.boundary (blank : Blank b) (boundary : Boundary cs) : Boundary (b ++ cs) := by
  cases b with
  | nil => exact boundary
  | cons d b =>
    intro c first
    obtain rfl : d = c := by simpa using first
    have space := blank d (by simp)
    refine ⟨isNameChar_of_isSpace space, ?_⟩
    rintro rfl
    exact absurd space (by decide)

theorem boundary_nil : Boundary [] := fun _ first => nomatch first

theorem Word.boundary (h : Word options w p) (cs : List Char) : Boundary (w ++ cs) := by
  obtain ⟨c, rest, rfl, -, other⟩ := h.starts
  intro d first
  obtain rfl : c = d := by simpa using first
  exact other

theorem Written.boundary (h : Written options cs ps) : Boundary cs := by
  cases h with
  | nil blank =>
    rw [← List.append_nil cs]
    exact blank.boundary boundary_nil
  | cons blank word => exact blank.boundary (word.boundary _)

/-- The texts that are rows of pieces are those that are rows of words. -/
theorem spells_iff_written : Spells options cs ps ↔ Written options cs ps := by
  constructor
  · intro h
    induction h with
    | nil blank => exact .nil (blank_iff_trimStart.2 blank)
    | @cons cs rest after c p ps starts reads others ih =>
      obtain ⟨b, blank, eq⟩ := exists_blank cs
      obtain ⟨w, whole, word⟩ := word_of_readPiece reads
      rw [eq, starts, whole]
      exact .cons blank word ih
  · intro h
    induction h with
    | nil blank => exact .nil (blank_iff_trimStart.1 blank)
    | @cons b w cs p ps blank word others ih =>
      obtain ⟨c, rest, whole, noSpace, reads⟩ := word.read others.boundary
      refine .cons ?_ reads ih
      rw [blank.trimStart_append, whole, trimStart_cons noSpace]

/-- Two rows of words, one after the other, are one. -/
theorem Written.append {cs' : List Char} {ps' : List Piece} (h : Written options cs ps)
    (h' : Written options cs' ps') : Written options (cs ++ cs') (ps ++ ps') := by
  induction h with
  | nil blank =>
    cases h' with
    | nil blank' => exact .nil (List.forall_mem_append.2 ⟨blank, blank'⟩)
    | cons blank' word others =>
      rw [← List.append_assoc]
      exact .cons (List.forall_mem_append.2 ⟨blank, blank'⟩) word others
  | cons blank word others ih =>
    simp only [List.append_assoc, List.cons_append]
    exact .cons blank word ih

theorem Word.written (h : Word options w p) : Written options w [p] := by
  have row := Written.cons blank_nil h (.nil blank_nil)
  simpa using row

/-- What a text compiles to is told by its words and what they build. -/
theorem compile_eq_ok_iff_written {source : String} {p : Pattern} :
    compile options source = .ok p
      ↔ p.source = source ∧ p.elements ≠ []
        ∧ ∃ ps, Written options source.toList ps ∧ Builds [] [] ps p.elements := by
  simp only [compile_eq_ok, spells_iff_written]

end

end SpanSearch.Pattern
