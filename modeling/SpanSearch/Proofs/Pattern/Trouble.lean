import SpanSearch.Proofs.Pattern.Meets
import SpanSearch.Proofs.Pattern.Positions

/-! # Pieces in trouble with an expression

Only setters and tags have expressions. A setter is in trouble with its expression if that does not
parse, a tag if that of its test does not. What stands before the test in its tag would be a tag if
it was closed there, so that it makes no trouble.
-/

namespace SpanSearch.Pattern

open Unicode

/-! ## Tests -/

/-- Whether a name may stand right after a text. -/
def Apart (cs : List Char) : Prop := ∀ c ∈ cs.getLast?, isNameChar c = false

/-- Whether a text begins with the test of a tag, where the expression does not parse, and the trouble
that this makes. -/
inductive FailingTest (engine : Expression.Engine) : List Char → Trouble → Prop
  | intro {before after raw rest : List Char} {quote : Char} {cause : Expression.Cause} {k : Nat}
      (blankBefore : Blank before) (blankAfter : Blank after) (isQuote : quote = '\'' ∨ quote = '"')
      (inside : Quoted.Inside quote raw)
      (fails : engine (String.ofList (Quoted.meaning false quote raw)) = .error (.malformed cause k)) :
      FailingTest engine
        (testAttribute.toList ++ (before ++ '=' :: (after ++ quote :: (raw ++ quote :: rest))))
        (.malformed (.invalidExpression .test cause) ((raw ++ quote :: rest).length - k))

section

variable {engine : Expression.Engine} {tag tag' : Tag} {c : Char} {cs start rest tail text : List Char}
  {place place' : ExpressionPlace} {cause : Expression.Cause} {left n : Nat} {t : Trouble}

theorem readExpression_eq_error :
    readExpression engine place left text = .error (.malformed (.invalidExpression place' cause) n)
      ↔ place' = place ∧ ∃ k, engine (String.ofList text) = .error (.malformed cause k)
          ∧ n = left - k := by
  unfold readExpression
  cases engine (String.ofList text) with
  | ok e => simp
  | error fault =>
    cases fault with
    | malformed cause' k => simp [eq_comm, and_assoc]
    | refused message => simp

theorem readValue_valid : readValue cs ≠ .error (.malformed (.invalidExpression place cause) n) := by
  unfold readValue
  grind

/-- An attribute is in trouble with an expression if it is a test whose expression does not parse. -/
theorem failingTest_of_read (first : isNameChar c = true)
    (h : readAttribute engine tag (c :: cs)
      = .error (.malformed (.invalidExpression place cause) n)) :
    FailingTest engine (c :: cs) (.malformed (.invalidExpression place cause) n) := by
  have isName := isName_takeWhile first cs
  have ends := endsName_dropWhile (c :: cs)
  have whole := (List.takeWhile_append_dropWhile (p := isNameChar) (l := c :: cs)).symm
  generalize (c :: cs).takeWhile isNameChar = name at isName whole
  generalize (c :: cs).dropWhile isNameChar = others at ends whole
  rw [whole] at h ⊢
  by_cases assigned : ∃ tail, trimStart others = '=' :: tail
  · obtain ⟨tail, equals⟩ := assigned
    rw [readAttribute_equals isName ends equals] at h
    obtain h | ⟨⟨value, rest⟩, read, h⟩ := bind_eq_error.1 h
    · exact absurd h readValue_valid
    obtain ⟨quote, raw, isQuote, inside, quoted, rfl⟩ := readValue_eq_ok.1 read
    dsimp only at h
    split at h
    · next isTest =>
      obtain h | ⟨e, -, h⟩ := bind_eq_error.1 h
      · obtain ⟨rfl, k, fails, rfl⟩ := readExpression_eq_error.1 h
        obtain ⟨before, blankBefore, eqBefore⟩ := exists_blank others
        obtain ⟨after, blankAfter, eqAfter⟩ := exists_blank tail
        rw [quoted] at eqAfter ⊢
        rw [equals, eqAfter] at eqBefore
        obtain rfl : name = testAttribute.toList := by
          rw [← eq_of_beq isTest, String.toList_ofList]
        rw [eqBefore]
        exact .intro blankBefore blankAfter isQuote inside fails
      · cases h
    · cases h
  · cases (readAttribute_bare isName ends (not_exists.1 assigned)).symm.trans h

theorem FailingTest.read (h : FailingTest engine cs t) : readAttribute engine tag cs = .error t := by
  cases h with
  | @intro before after raw rest quote cause k blankBefore blankAfter isQuote inside fails =>
    rw [readAttribute_equals isName_test (endsName_equals blankBefore _)
      (trimStart_equals blankBefore _), trimStart_quote blankAfter isQuote]
    refine bind_eq_error.2 (.inr ⟨_, readValue_eq_ok.2 ⟨quote, raw, isQuote, inside, rfl, rfl⟩, ?_⟩)
    dsimp only
    rw [String.ofList_toList, if_pos (beq_self_eq_true _)]
    exact bind_eq_error.2 (.inl (readExpression_eq_error.2 ⟨rfl, k, fails, rfl⟩))

theorem FailingTest.starts (h : FailingTest engine cs t) :
    ∃ rest, cs = 't' :: rest := by
  cases h
  exact ⟨_, rfl⟩

/-! ## Tags -/

theorem Apart.of_append (apart : Apart (cs ++ rest)) : Apart rest := by
  intro c last
  refine apart c ?_
  rw [List.getLast?_append, Option.mem_def.1 last]
  rfl

theorem Apart.append (apart : Apart rest) (nonempty : rest ≠ []) (cs : List Char) :
    Apart (cs ++ rest) := by
  intro c last
  rw [List.getLast?_append_of_ne_nil cs nonempty] at last
  exact apart c last

theorem Apart.cons (other : isNameChar c = false) (apart : Apart cs) : Apart (c :: cs) := by
  cases cs with
  | nil =>
    intro d last
    cases last
    exact other
  | cons d cs => exact apart.append (List.cons_ne_nil d cs) [c]

theorem Apart.blank_append {b : List Char} (apart : Apart cs) (blank : Blank b) :
    Apart (b ++ cs) := by
  induction b with
  | nil => exact apart
  | cons c b ih =>
    obtain ⟨space, blank⟩ := List.forall_mem_cons.1 blank
    exact (ih blank).cons (isNameChar_of_isSpace space)

theorem apart_nil : Apart [] := nofun

/-- No name may stand right after another one. -/
theorem not_apart_name {name : List Char} (isName : IsName name) : ¬ Apart (cs ++ name) := by
  intro apart
  have last := apart.of_append _ (List.getLast?_eq_some_getLast isName.nonempty)
  rw [isName.chars _ (List.getLast_mem isName.nonempty)] at last
  cases last

theorem exists_init {w : List Char} (whole : start ++ [c] = w ++ cs) (nonempty : cs ≠ []) :
    ∃ init, cs = init ++ [c] ∧ start = w ++ init := by
  obtain rfl | ⟨init, d, rfl⟩ := List.eq_nil_or_concat' cs
  · exact absurd rfl nonempty
  · rw [← List.append_assoc] at whole
    obtain ⟨rfl, same⟩ := List.append_inj' whole rfl
    cases same
    exact ⟨init, rfl, rfl⟩

/-- An attribute is read before the others. -/
theorem readAttributes_step {b name : List Char} (blank : Blank b) (isName : IsName name) :
    readAttributes engine left tag (b ++ (name ++ rest))
      = readAttribute engine tag (name ++ rest) >>= fun (tag, rest) =>
          readAttributes engine left tag rest := by
  obtain ⟨c, name, rfl⟩ := List.exists_cons_of_ne_nil isName.nonempty
  have first := isName.chars c (by simp)
  refine readAttributes_cons ?_ first
  rw [blank.trimStart_append, List.cons_append, trimStart_cons (isSpace_of_isNameChar first)]
  rfl

/-- What follows the name of a bare attribute is no value, whether the tag is closed after it or goes
on with another attribute. -/
theorem Attributes.noValue (h : Attributes engine tag (cs ++ ['>']) tag') (tail rest : List Char) :
    trimStart (cs ++ 't' :: tail) ≠ '=' :: rest := by
  obtain ⟨d, after, starts, kind⟩ := h.starts []
  obtain ⟨b, blank, eq⟩ := exists_blank cs
  rw [eq, List.append_assoc, List.append_assoc, blank.trimStart_append] at starts
  rw [eq, List.append_assoc, blank.trimStart_append]
  cases first : trimStart cs with
  | nil =>
    rw [List.nil_append, trimStart_cons (by decide)]
    nofun
  | cons e es =>
    have solid := solid_of_trimStart first
    rw [first, List.cons_append, trimStart_cons solid] at starts
    rw [List.cons_append, trimStart_cons solid]
    intro equals
    cases equals
    cases starts
    rcases kind with kind | kind <;> exact absurd kind (by decide)

/-- The attributes before a place of a tag are read up to there, as they were if the tag was closed
there. -/
theorem Attributes.leads (h : Attributes engine tag (start ++ ['>']) tag') (apart : Apart start)
    (left : Nat) (tail : List Char) :
    readAttributes engine left tag (start ++ 't' :: tail)
      = readAttributes engine left tag' ('t' :: tail) := by
  -- The attributes are those of the closed tag, so that the bracket goes along to its end.
  generalize whole : start ++ ['>'] = text at h
  induction h generalizing start with
  | close blank =>
    obtain ⟨rfl, -⟩ := List.append_inj' whole rfl
    rw [readAttributes_eq, readAttributes_eq, blank.trimStart_append]
  | @bare tag tag' b name cs blank isName ends others ih =>
    obtain ⟨init, rfl, rfl⟩ := exists_init (w := b ++ name) (by simpa using whole) others.ne_nil
    have nonempty : init ≠ [] := by
      rintro rfl
      rw [List.append_nil] at apart
      exact not_apart_name isName apart
    rw [List.append_assoc, List.append_assoc, readAttributes_step blank isName,
      readAttribute_bare isName (ends.of_append.append nonempty _)
        fun rest => others.noValue tail rest]
    exact (readAttributes_trimStart (trimStart_idem _)).trans (ih apart.of_append rfl)
  | @valued tag tag' tag'' b name before after raw cs quote blank isName blankBefore blankAfter
      isQuote inside puts others ih =>
    obtain ⟨init, rfl, rfl⟩ := exists_init
      (w := b ++ (name ++ (before ++ '=' :: (after ++ quote :: (raw ++ [quote])))))
      (by simpa using whole) others.ne_nil
    have read : readAttribute engine tag
        (name ++ (before ++ '=' :: (after ++ quote :: (raw ++ quote :: (init ++ 't' :: tail)))))
          = .ok (tag', init ++ 't' :: tail) :=
      readAttribute_valued isName blankBefore blankAfter isQuote inside puts
    calc
      _ = readAttributes engine left tag (b ++ (name
            ++ (before ++ '=' :: (after ++ quote :: (raw ++ quote :: (init ++ 't' :: tail)))))) := by
        simp only [List.append_assoc, List.cons_append, List.nil_append]
      _ = readAttributes engine left tag' (init ++ 't' :: tail) := by
        rw [readAttributes_step blank isName, read]
        rfl
      _ = _ := ih apart.of_append rfl

/-- Attributes are in trouble with an expression just if there is a failing test after some of them. -/
theorem exists_failingTest (h : readAttributes engine left tag cs
      = .error (.malformed (.invalidExpression place cause) n)) :
    ∃ start tag' tail, cs = start ++ tail ∧ Attributes engine tag (start ++ ['>']) tag' ∧ Apart start
      ∧ FailingTest engine tail (.malformed (.invalidExpression place cause) n) := by
  fun_induction readAttributes engine left tag cs with
  | case3 tag cs c rest starts _ first t read =>
    cases h
    obtain ⟨b, blank, eq⟩ := exists_blank cs
    have apart := apart_nil.blank_append blank
    rw [List.append_nil] at apart
    exact ⟨b, tag, c :: rest, by rw [eq, starts], .close blank, apart,
      failingTest_of_read first read⟩
  | case4 tag cs c rest starts _ first tag1 after read ih =>
    obtain ⟨b, blank, eq⟩ := exists_blank cs
    obtain ⟨start, tag', tail, rfl, attributes, apart, failing⟩ := ih h
    obtain ⟨name, isName, shape⟩ := attribute_of_read first read
    rw [starts] at eq
    rcases shape with ⟨others, whole, ends, trimmed, rfl⟩
      | ⟨before, after, quote, raw, blankBefore, blankAfter, isQuote, inside, whole, puts⟩
    · -- The reader has skipped the white space after the name, which keeps the names apart.
      obtain ⟨b', blank', eq'⟩ := exists_blank others
      rw [← trimmed, ← List.append_assoc] at eq'
      have nonempty : b' ++ start ≠ [] := by
        intro empty
        obtain ⟨tail, rfl⟩ := failing.starts
        rw [eq', empty] at ends
        exact absurd (ends 't' rfl) (by decide)
      rw [eq'] at ends
      refine ⟨b ++ (name ++ (b' ++ start)), tag', tail, ?_, ?_, ?_, failing⟩
      · rw [eq, whole, eq']
        simp only [List.append_assoc]
      · have written := Attributes.bare blank isName (ends.of_append.append nonempty ['>'])
          (by rw [List.append_assoc]; exact attributes.blank_append blank')
        simpa using written
      · rw [← List.append_assoc]
        exact (apart.blank_append blank').append nonempty _
    · have other : isNameChar quote = false := by
        rcases isQuote with rfl | rfl <;> decide
      refine ⟨b ++ (name ++ (before ++ '=' :: (after ++ quote :: (raw ++ quote :: start)))), tag',
        tail, ?_, ?_, ?_, failing⟩
      · rw [eq, whole]
        simp only [List.append_assoc, List.cons_append]
      · have written := Attributes.valued blank isName blankBefore blankAfter isQuote inside puts
          attributes
        simpa using written
      · have last := (apart.cons other).append (List.cons_ne_nil quote start)
          (b ++ (name ++ (before ++ '=' :: (after ++ quote :: raw))))
        simpa using last
  | _ => cases h

/-- A tag is in trouble with an expression just if there is a failing test in it. -/
theorem readTag_eq_error {options : Options} :
    readTag options cs = .error (.malformed (.invalidExpression place cause) n)
      ↔ ∃ start tag tail, cs = start ++ tail ∧ TagText options (start ++ ['>']) tag ∧ Apart start
        ∧ FailingTest options.engine tail (.malformed (.invalidExpression place cause) n) := by
  constructor
  · intro h
    unfold readTag at h
    dsimp only at h
    split at h
    · next allowed =>
      obtain ⟨b, blank, eq⟩ := exists_blank cs
      obtain ⟨start, tag, tail, whole, attributes, apart, failing⟩ := exists_failingTest h
      have ends := endsName_dropWhile (trimStart cs)
      rw [whole] at ends
      have nonempty : start ≠ [] := by
        rintro rfl
        obtain ⟨tail, rfl⟩ := failing.starts
        exact absurd (ends 't' rfl) (by decide)
      have isName : IsName ((trimStart cs).takeWhile isNameChar) :=
        ⟨isName_of_allowsType allowed, fun _ mem => List.mem_takeWhile_imp mem⟩
      refine ⟨b ++ ((trimStart cs).takeWhile isNameChar ++ start), tag, tail, ?_, ?_, ?_, failing⟩
      · rw [List.append_assoc, List.append_assoc, ← whole, List.takeWhile_append_dropWhile]
        exact eq
      · have written := TagText.intro blank isName allowed (ends.of_append.append nonempty ['>'])
          attributes
        simpa using written
      · rw [← List.append_assoc]
        exact apart.append nonempty _
    · cases h
  · rintro ⟨start, tag, tail, rfl, written, apart, failing⟩
    generalize whole : start ++ ['>'] = text at written
    cases written with
    | @intro _ b type attributes blank isName allowed ends attributes' =>
      obtain ⟨init, rfl, rfl⟩ := exists_init (w := b ++ type) (by simpa using whole)
        attributes'.ne_nil
      have nonempty : init ≠ [] := by
        rintro rfl
        rw [List.append_nil] at apart
        exact not_apart_name isName apart
      have trimmed : trimStart (b ++ type ++ init ++ tail) = type ++ (init ++ tail) := by
        obtain ⟨c, type, rfl⟩ := List.exists_cons_of_ne_nil isName.nonempty
        rw [List.append_assoc, List.append_assoc, blank.trimStart_append, List.cons_append,
          trimStart_cons (isSpace_of_isNameChar (isName.chars c (by simp)))]
      have ends' : EndsName (init ++ tail) := ends.of_append.append nonempty tail
      unfold readTag
      rw [trimmed, takeWhile_name isName.chars ends', dropWhile_name isName.chars ends']
      dsimp only
      rw [if_pos allowed]
      obtain ⟨rest, rfl⟩ := failing.starts
      rw [attributes'.leads apart.of_append, readAttributes_eq, trimStart_cons (by decide)]
      simp only [failing.read]
      rfl

/-! ## Setters -/

theorem readTarget_valid {e : Option Expression} :
    readTarget left e cs ≠ .error (.malformed (.invalidExpression place cause) n) := by
  unfold readTarget
  grind

/-- A setter is in trouble with an expression just if it has one that does not parse. -/
theorem readSetter_eq_error :
    readSetter engine cs = .error (.malformed (.invalidExpression place cause) n)
      ↔ place = .setter ∧ ∃ raw rest k, cs = '(' :: (raw ++ ')' :: rest) ∧ Balanced 0 none raw
        ∧ engine (String.ofList raw) = .error (.malformed cause k)
        ∧ n = (raw ++ ')' :: rest).length - k := by
  constructor
  · intro h
    unfold readSetter at h
    dsimp only at h
    split at h
    · next inner =>
      split at h
      · cases h
      · next raw after read =>
        obtain ⟨rfl, balanced⟩ := balanced_of_read read
        obtain h | ⟨e, -, h⟩ := bind_eq_error.1 h
        · obtain ⟨rfl, k, fails, rfl⟩ := readExpression_eq_error.1 h
          exact ⟨rfl, raw, after, k, rfl, balanced, fails, rfl⟩
        · split at h
          · exact absurd h readTarget_valid
          · cases h
    · exact absurd h readTarget_valid
  · rintro ⟨rfl, raw, rest, k, rfl, balanced, fails, rfl⟩
    unfold readSetter
    simp only [balanced.read]
    exact bind_eq_error.2 (.inl (readExpression_eq_error.2 ⟨rfl, k, fails, rfl⟩))

end

end SpanSearch.Pattern
