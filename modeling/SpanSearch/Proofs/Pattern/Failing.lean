import Mathlib
import SpanSearch.Proofs.Expression.Descent
import SpanSearch.Proofs.Pattern.Descent
import SpanSearch.Proofs.Pattern.Origins
import SpanSearch.Proofs.Pattern.Trouble

/-! # Where expressions fail

If an expression in a pattern does not parse, the error is reported at the place of the pattern where
its text starts, moved on by the place of the error in the expression. In a setter that is the place
of the character at fault. The test of a tag stands between quotes, where a quote of the same kind is
escaped: each of those up to the character at fault moves this one on, but not the place that is
reported.
-/

namespace SpanSearch.Pattern

open Unicode

/-! ## Expressions -/

section

variable {place : ExpressionPlace} {cs : List Char} {c : Char} {cause : Expression.Cause} {n : Nat}

/-- Whether a text opens the text of an expression, and what closes it: a setter does so by a
parenthesis, and the test of a tag by a quote. -/
inductive Opens (options : Options) : ExpressionPlace → Option Char → List Char → Char → Prop
  | setter : Opens options .setter none ['@', '('] ')'
  | test {start before after : List Char} {quote : Char} {tag : Tag}
      (written : TagText options (start ++ ['>']) tag) (apart : Apart start)
      (blankBefore : Blank before) (blankAfter : Blank after)
      (isQuote : quote = '\'' ∨ quote = '"') :
      Opens options .test (some quote)
        ('<' :: (start ++ (testAttribute.toList ++ (before ++ '=' :: (after ++ [quote]))))) quote

/-- Whether the text of an expression ends where it is closed. -/
def Encloses : Option Char → List Char → Prop
  | none, raw => Balanced 0 none raw
  | some quote, raw => Quoted.Inside quote raw

/-- The expression that a text is read as, which stands in quotes or without. -/
def unquoted : Option Char → List Char → List Char
  | none, raw => raw
  | some quote, raw => Quoted.meaning false quote raw

/-- The piece in trouble with an expression is a setter or a tag. -/
theorem readPiece_eq_error {options : Options} :
    readPiece options c cs = .error (.malformed (.invalidExpression place cause) n)
      ↔ ∃ quote opening closing raw rest k, Opens options place quote opening closing
        ∧ Encloses quote raw ∧ c :: cs = opening ++ (raw ++ closing :: rest)
        ∧ options.engine (String.ofList (unquoted quote raw)) = .error (.malformed cause k)
        ∧ n = (raw ++ closing :: rest).length - k := by
  constructor
  · intro h
    unfold readPiece at h
    split at h
    · cases h
    split at h
    · cases h
    split at h
    · cases h
    split at h
    · next isAt =>
      obtain rfl : c = '@' := by simpa using isAt
      obtain ⟨rfl, raw, rest, k, rfl, balanced, fails, rfl⟩ := readSetter_eq_error.1 (map_eq_error.1 h)
      exact ⟨none, _, _, raw, rest, k, .setter, balanced, rfl, fails, rfl⟩
    split at h
    · exact absurd (map_eq_error.1 h) readBounds_valid
    · obtain ⟨rfl, inTag⟩ := tag_of_readAtom (map_eq_error.1 h)
      obtain ⟨start, tag, tail, rfl, written, apart, failing⟩ := readTag_eq_error.1 inTag
      cases failing with
      | @intro before after raw rest quote _ k blankBefore blankAfter isQuote inside fails =>
        exact ⟨some quote, _, quote, raw, rest, k,
          .test written apart blankBefore blankAfter isQuote, inside, by simp, fails, rfl⟩
  · rintro ⟨quote, opening, closing, raw, rest, k, opens, encloses, whole, fails, rfl⟩
    cases opens with
    | setter =>
      cases whole
      rw [readPiece_setter]
      exact map_eq_error.2 (readSetter_eq_error.2 ⟨rfl, raw, rest, k, rfl, encloses, fails, rfl⟩)
    | @test start before after quote tag written apart blankBefore blankAfter isQuote =>
      obtain ⟨rfl, rfl⟩ := List.cons.inj whole
      rw [readPiece_atom (by decide) (by decide) (by decide) (by decide) (by decide)]
      exact map_eq_error.2 (map_eq_error.2 (readTag_eq_error.2 ⟨start, tag, _, by simp, written, apart,
        .intro blankBefore blankAfter isQuote encloses fails⟩))

/-- Whether the text of an expression stands in a pattern after a row of words and what opens it. -/
inductive Stands (options : Options) :
    List Char → ExpressionPlace → Option Char → List Char → List Char → Prop
  | intro {row opening raw rest : List Char} {ps : List Piece} {place : ExpressionPlace}
      {quote : Option Char} {closing : Char} (written : Written options row ps)
      (opens : Opens options place quote opening closing) (encloses : Encloses quote raw) :
      Stands options (row ++ (opening ++ (raw ++ closing :: rest))) place quote (row ++ opening) raw

theorem Opens.exists_first {options : Options} {quote : Option Char} {opening : List Char}
    {closing : Char} (opens : Opens options place quote opening closing) :
    ∃ c inner, opening = c :: inner ∧ isSpace c = false ∧ ∀ rest, Boundary (c :: rest) := by
  cases opens with
  | setter => exact ⟨'@', _, rfl, by decide, fun _ => by simp [Boundary]; decide⟩
  | test => exact ⟨'<', _, rfl, by decide, fun _ => by simp [Boundary]; decide⟩

/-- Reading meets with an expression that does not parse just where its text stands. -/
theorem meets_iff_stands {options : Options} :
    Meets options cs (.malformed (.invalidExpression place cause) n)
      ↔ ∃ quote before raw k, Stands options cs place quote before raw
        ∧ options.engine (String.ofList (unquoted quote raw)) = .error (.malformed cause k)
        ∧ n = cs.length - before.length - k := by
  constructor
  · intro h
    obtain ⟨row, ps, c, rest, rfl, written, h⟩ := h.exists_row
    obtain ⟨quote, opening, closing, raw, rest, k, opens, encloses, whole, fails, rfl⟩ :=
      readPiece_eq_error.1 h
    rw [whole]
    refine ⟨quote, _, raw, k, .intro written opens encloses, fails, ?_⟩
    simp only [List.length_append]
    omega
  · rintro ⟨quote, before, raw, k, stands, fails, rfl⟩
    cases stands with
    | @intro row opening raw rest ps _ _ closing written opens encloses =>
      obtain ⟨c, inner, rfl, visible, boundary⟩ := opens.exists_first
      have failing : readPiece options c (inner ++ (raw ++ closing :: rest))
          = .error (.malformed (.invalidExpression place cause)
            ((raw ++ closing :: rest).length - k)) :=
        readPiece_eq_error.2 ⟨quote, _, closing, raw, rest, k, opens, encloses, rfl, fails, rfl⟩
      have left_eq : (row ++ (c :: inner ++ (raw ++ closing :: rest))).length
          - (row ++ c :: inner).length = (raw ++ closing :: rest).length := by
        simp only [List.length_append]
        omega
      rw [left_eq]
      exact written.meets visible (boundary _) failing

end

/-! ## Errors -/

/-- The place that the character at `k` of an expression was read from, where `start` is the place of
its text. -/
def originOf : Option Char → Nat → List Char → Nat → Nat
  | none, start, _, k => start + k
  | some quote, start, raw, k => Quoted.origin quote start raw k

/-- How many of the characters of an expression up to the one at `k` are the quote around it. -/
def quotesUpTo (quote : Option Char) (text : List Char) (k : Nat) : Nat :=
  quote.elim 0 fun q => (text.take (k + 1)).count q

/-- Whether the expression whose text stands at a place of a pattern fails at `k`. -/
structure FailsAt (options : Options) (source : String) (place : ExpressionPlace)
    (quote : Option Char) (before raw : List Char) (cause : Expression.Cause) (k : Nat) : Prop where
  stands : Stands options source.toList place quote before raw
  fails : Expression.Term.parse (String.ofList (unquoted quote raw)) = .error (cause, k)

section

variable {options : Options} {source : String} {place : ExpressionPlace} {quote : Option Char}
  {before raw cs : List Char} {cause : Expression.Cause} {offset k : Nat}

theorem standard_eq_malformed {text : String} :
    Expression.standard text = .error (.malformed cause k)
      ↔ Expression.Term.parse text = .error (cause, k) := by
  unfold Expression.standard
  cases Expression.Term.parse text with
  | ok body => simp
  | error fault => obtain ⟨cause', k'⟩ := fault; simp

theorem le_of_parse {text : String} (h : Expression.Term.parse text = .error (cause, k)) :
    k ≤ text.length := by
  have agrees := Expression.Cursor.parse_agrees text
  rw [h] at agrees
  generalize Expression.Cursor.parse text = run at agrees
  cases agrees with
  | fault within => exact within.2

theorem length_meaning_le {q : Char} (inside : Quoted.Inside q raw) :
    (Quoted.meaning false q raw).length ≤ raw.length := by
  induction inside with
  | nil => exact Nat.le_refl _
  | @pair c cs _ ih =>
    rw [Quoted.meaning]
    split <;> simp only [List.length_cons] <;> omega
  | char plain _ _ ih =>
    rw [Quoted.meaning_char false q plain]
    exact Nat.succ_le_succ ih

theorem compile_eq_invalidExpression
    (failed : compile options source = .error (.malformed (.invalidExpression place cause) offset)) :
    ∃ left, Meets options source.toList (.malformed (.invalidExpression place cause) left)
      ∧ offset = source.toList.length - left := by
  unfold compile at failed
  dsimp only at failed
  split at failed
  · cases failed
  · cases failed
  · next left read =>
    cases failed
    exact ⟨left, meets_of_readElements read, rfl⟩
  · cases failed

/-- The place that a character of an expression was read from has this character in the pattern, and
that of the end is just after the text of the expression. -/
theorem Stands.getElem?_originOf (stands : Stands options cs place quote before raw) :
    (k < (unquoted quote raw).length →
        cs[originOf quote before.length raw k]? = (unquoted quote raw)[k]?)
      ∧ originOf quote before.length raw (unquoted quote raw).length = before.length + raw.length := by
  have here : ∃ closing rest, cs.drop before.length = raw ++ closing :: rest := by
    cases stands with
    | @intro row opening raw rest _ _ _ closing =>
      exact ⟨closing, rest, by rw [← List.append_assoc, List.drop_left]⟩
  obtain ⟨closing, rest, here⟩ := here
  cases quote with
  | none =>
    refine ⟨fun lt => ?_, rfl⟩
    rw [originOf, ← List.getElem?_drop, here]
    exact List.getElem?_append_left lt
  | some q =>
    refine ⟨fun lt => Quoted.getElem?_origin here lt, ?_⟩
    rw [originOf, unquoted, ← Quoted.map_traced q before.length, List.length_map, Quoted.origin,
      List.getElem?_eq_none (Nat.le_refl _)]
    rfl

/-- The text of an expression lies within the pattern, and no backslash encloses it. -/
theorem Stands.within (stands : Stands options cs place quote before raw) :
    Encloses quote raw ∧ quote ≠ some '\\'
      ∧ before.length + (unquoted quote raw).length ≤ cs.length := by
  cases stands with
  | @intro row opening raw rest ps place quote closing written opens encloses =>
    have length_le : (unquoted quote raw).length ≤ raw.length := by
      cases quote with
      | none => exact Nat.le_refl _
      | some q => exact length_meaning_le encloses
    refine ⟨encloses, ?_, ?_⟩
    · cases opens with
      | setter => nofun
      | test _ _ _ _ isQuote => rcases isQuote with rfl | rfl <;> decide
    · simp only [List.length_append, List.length_cons]
      omega

/-- In quotes, each quote up to the character at `k` moves this one on by one place. -/
theorem originOf_eq (encloses : Encloses quote raw) (ordinary : quote ≠ some '\\')
    (most : k ≤ (unquoted quote raw).length) (start : Nat) :
    originOf quote start raw k = start + k + quotesUpTo quote (unquoted quote raw) k := by
  cases quote with
  | none => rfl
  | some q => exact Quoted.origin_eq encloses (by simpa using ordinary) most

/-- The error is reported where the expression's own place leads to if the places of the expression
are counted on in the pattern. That is where the character at fault was read from just if the quote
around the expression is not among its characters up to there. -/
theorem offset_of_invalidExpression {tokenizer : Tokenizer} {known : Option (List String)}
    (failed : compile ⟨tokenizer, Expression.standard, known⟩ source
      = .error (.malformed (.invalidExpression place cause) offset)) :
    (∃ quote before raw k,
        FailsAt ⟨tokenizer, Expression.standard, known⟩ source place quote before raw cause k)
      ∧ ∀ place' quote before raw cause' k,
        FailsAt ⟨tokenizer, Expression.standard, known⟩ source place' quote before raw cause' k →
          place' = place ∧ cause' = cause ∧ offset = before.length + k
            ∧ originOf quote before.length raw k
              = offset + quotesUpTo quote (unquoted quote raw) k
            ∧ (offset = originOf quote before.length raw k
              ↔ ∀ q ∈ quote, q ∉ (unquoted quote raw).take (k + 1)) := by
  obtain ⟨left, meets, offset_eq⟩ := compile_eq_invalidExpression failed
  constructor
  · obtain ⟨quote, before, raw, k, stands, fails, -⟩ := meets_iff_stands.1 meets
    exact ⟨quote, before, raw, k, stands, standard_eq_malformed.1 fails⟩
  · rintro place' quote before raw cause' k ⟨stands, fails⟩
    -- Reading meets with one trouble only, so that this is the one that was reported.
    have meets' := meets_iff_stands.2
      ⟨quote, before, raw, k, stands, standard_eq_malformed.2 fails, rfl⟩
    cases meets.unique meets'
    obtain ⟨encloses, ordinary, within⟩ := stands.within
    have most : k ≤ (unquoted quote raw).length := by simpa using le_of_parse fails
    have place_eq : offset = before.length + k := by omega
    have origin_eq := originOf_eq encloses ordinary most before.length
    rw [← place_eq] at origin_eq
    refine ⟨rfl, rfl, place_eq, origin_eq, ?_⟩
    rw [origin_eq, eq_comm, Nat.add_eq_left]
    cases quote with
    | none => simp [quotesUpTo]
    | some q => simp [quotesUpTo, List.count_eq_zero]

end

/-! ## Tests of a tag by itself -/

section

variable {tokenizer : Tokenizer} {source : String} {quote : Char} {raw rest : List Char}
  {cause : Expression.Cause} {k : Nat}

/-- A pattern whose first tag has a test that fails. -/
theorem failing_tag (tokenizer : Tokenizer) (isQuote : quote = '\'' ∨ quote = '"')
    (inside : Quoted.Inside quote raw)
    (whole : source.toList = '<' :: ("a test=".toList ++ quote :: (raw ++ quote :: rest)))
    (fails : Expression.Term.parse (String.ofList (Quoted.meaning false quote raw))
      = .error (cause, k)) :
    compile ⟨tokenizer, Expression.standard, none⟩ source
        = .error (.malformed (.invalidExpression .test cause) (9 + k))
      ∧ FailsAt ⟨tokenizer, Expression.standard, none⟩ source .test (some quote)
        ("<a test=".toList ++ [quote]) raw cause k := by
  have isName : IsName ['a'] := ⟨List.cons_ne_nil _ _, List.all_eq_true.1 (by decide)⟩
  have blank : Blank [' '] := by simp [Blank]; decide
  have tag : TagText ⟨tokenizer, Expression.standard, none⟩ (['a', ' '] ++ ['>']) ⟨"a", [], none⟩ :=
    .intro blank_nil isName (by simp [Options.allowsType]; decide) (by simp [EndsName]; decide)
      (.close blank)
  have apart : Apart ['a', ' '] := by simp [Apart]; decide
  constructor
  · have failing : FailingTest Expression.standard
        (testAttribute.toList ++ ([] ++ '=' :: ([] ++ quote :: (raw ++ quote :: rest))))
        (.malformed (.invalidExpression .test cause) ((raw ++ quote :: rest).length - k)) :=
      .intro blank_nil blank_nil isQuote inside (standard_eq_malformed.2 fails)
    have inTag := readTag_eq_error.2 ⟨['a', ' '], _, _, rfl, tag, apart, failing⟩
    have read : readElements ⟨tokenizer, Expression.standard, none⟩ [] [] source.toList
        = .error (.malformed (.invalidExpression .test cause)
          ((raw ++ quote :: rest).length - k)) := by
      rw [whole, readElements_cons (trimStart_cons (by decide) _)]
      exact bind_eq_error.2 (.inl (bind_eq_error.2 (.inl (map_eq_error.2 inTag))))
    have most : k ≤ raw.length := by
      have := le_of_parse fails
      have := length_meaning_le inside
      rw [String.length_ofList] at *
      omega
    have length : source.toList.length = 9 + (raw ++ quote :: rest).length := by
      have seven : "a test=".toList.length = 7 := by decide
      rw [whole, List.length_cons, List.length_append, List.length_cons, seven]
      omega
    have place_eq : source.toList.length - ((raw ++ quote :: rest).length - k) = 9 + k := by
      rw [length, List.length_append]
      omega
    simp only [compile, read, place_eq]
  · have opens : Opens ⟨tokenizer, Expression.standard, none⟩ .test (some quote)
        ('<' :: (['a', ' '] ++ (testAttribute.toList ++ ([] ++ '=' :: ([] ++ [quote]))))) quote :=
      .test tag apart blank_nil blank_nil isQuote
    have row : Written ⟨tokenizer, Expression.standard, none⟩ [] [] := .nil blank_nil
    refine ⟨?_, fails⟩
    rw [whole]
    exact .intro row opens inside

/-- The test is one double quote between single quotes, which no quote closes. -/
theorem offset_openQuote :
    compile ⟨.standard, Expression.standard, none⟩ "<a test='\"'>"
        = .error (.malformed (.invalidExpression .test .unterminatedText) 9)
      ∧ FailsAt ⟨.standard, Expression.standard, none⟩ "<a test='\"'>" .test (some '\'')
        "<a test='".toList ['"'] .unterminatedText 0
      ∧ originOf (some '\'') 9 ['"'] 0 = 9 := by
  have inside : Quoted.Inside '\'' ['"'] := .char (by decide) (by decide) .nil
  have whole : "<a test='\"'>".toList
      = '<' :: ("a test=".toList ++ '\'' :: (['"'] ++ '\'' :: ['>'])) := rfl
  obtain ⟨failed, failsAt⟩ := failing_tag .standard (.inl rfl) inside whole (by cbv)
  obtain ⟨-, origin⟩ := offset_of_invalidExpression failed
  have exactly := (origin _ _ _ _ _ _ failsAt).2.2.2.2.2 fun _ mem => by cases mem; decide
  exact ⟨failed, failsAt, exactly.symm⟩

/-- Two escaped quotes stand before the character at fault, which is the fourteenth of the pattern. -/
theorem offset_escapedQuotes :
    compile ⟨.standard, Expression.standard, none⟩ "<a test=\"\\\"\\\"~\">"
        = .error (.malformed (.invalidExpression .test (.unexpectedCharacter '~')) 11)
      ∧ FailsAt ⟨.standard, Expression.standard, none⟩ "<a test=\"\\\"\\\"~\">" .test (some '"')
        "<a test=\"".toList "\\\"\\\"~".toList (.unexpectedCharacter '~') 2
      ∧ originOf (some '"') 9 "\\\"\\\"~".toList 2 = 13 := by
  have inside : Quoted.Inside '"' "\\\"\\\"~".toList :=
    .pair (.pair (.char (by decide) (by decide) .nil))
  have whole : "<a test=\"\\\"\\\"~\">".toList
      = '<' :: ("a test=".toList ++ '"' :: ("\\\"\\\"~".toList ++ '"' :: ['>'])) := rfl
  obtain ⟨failed, failsAt⟩ := failing_tag .standard (.inr rfl) inside whole (by cbv)
  exact ⟨failed, failsAt, by cbv⟩

end

end SpanSearch.Pattern
