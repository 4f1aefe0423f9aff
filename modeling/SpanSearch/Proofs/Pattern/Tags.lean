import SpanSearch.Proofs.Pattern.Blank
import SpanSearch.Proofs.Pattern.Pieces
import SpanSearch.Proofs.Pattern.Quotes

/-! # How tags are written

A tag is a type and attributes, with white space where names do not need to be kept apart from what
follows them. The reader of tags accepts just these texts.
-/

namespace SpanSearch.Pattern

open Unicode

/-! ## Characters -/

/-- White space is no part of names. -/
theorem isNameChar_of_isSpace {c : Char} (h : isSpace c = true) : isNameChar c = false := by
  have all : ∀ n ∈ spaceCodes, isNameChar (Char.ofNat n) = false := by decide +kernel
  have := all c.toNat (mem_spaceCodes h)
  rwa [Char.ofNat_toNat] at this

/-- Whether a text is a name. -/
structure IsName (cs : List Char) : Prop where
  nonempty : cs ≠ []
  chars : ∀ c ∈ cs, isNameChar c = true

/-- Whether a name may stand right before a text. -/
def EndsName (cs : List Char) : Prop := ∀ c ∈ cs.head?, isNameChar c = false

section

variable {b name cs rest : List Char} {c : Char}

theorem Blank.endsName (blank : Blank b) (ends : EndsName cs) : EndsName (b ++ cs) := by
  cases b with
  | nil => exact ends
  | cons d b =>
    intro c first
    obtain rfl : d = c := by simpa using first
    exact isNameChar_of_isSpace (blank d (by simp))

theorem EndsName.of_append (ends : EndsName (cs ++ rest)) : EndsName cs := by
  intro c first
  cases cs with
  | nil => cases first
  | cons d cs => exact ends c first

theorem EndsName.append (ends : EndsName cs) (nonempty : cs ≠ []) (rest : List Char) :
    EndsName (cs ++ rest) := by
  cases cs with
  | nil => exact absurd rfl nonempty
  | cons d cs => exact ends

theorem isSpace_of_isNameChar (h : isNameChar c = true) : isSpace c = false := by
  by_contra space
  rw [Bool.not_eq_false] at space
  rw [isNameChar_of_isSpace space] at h
  cases h

theorem takeWhile_name (chars : ∀ c ∈ name, isNameChar c = true) (ends : EndsName rest) :
    (name ++ rest).takeWhile isNameChar = name := by
  rw [List.takeWhile_append_of_pos chars]
  cases rest with
  | nil => simp
  | cons d rest =>
    rw [List.takeWhile_cons_of_neg (by simp [ends d rfl]), List.append_nil]

theorem dropWhile_name (chars : ∀ c ∈ name, isNameChar c = true) (ends : EndsName rest) :
    (name ++ rest).dropWhile isNameChar = rest := by
  rw [List.dropWhile_append_of_pos chars]
  cases rest with
  | nil => rfl
  | cons d rest => exact List.dropWhile_cons_of_neg (by simp [ends d rfl])

theorem endsName_dropWhile (cs : List Char) : EndsName (cs.dropWhile isNameChar) := by
  intro c first
  have := List.head?_dropWhile_not isNameChar cs
  rw [Option.mem_def.1 first] at this
  simpa using this

theorem isName_test : IsName testAttribute.toList :=
  ⟨by decide, List.all_eq_true.1 (by decide)⟩

end

/-! ## Attributes -/

/-- Whether a tag becomes another when an attribute with a value is read. -/
def Puts (engine : Expression.Engine) (tag : Tag) (name value : List Char) (tag' : Tag) : Prop :=
  if String.ofList name = testAttribute then
    ∃ e, engine (String.ofList value) = .ok e ∧ tag' = { tag with test := some e }
  else
    tag' = { tag with
      constraints := tag.constraints ++ [⟨String.ofList name, valueTest value⟩] }

/-- The tag with an attribute that has to be present. -/
def withPresent (tag : Tag) (name : List Char) : Tag :=
  { tag with constraints := tag.constraints ++ [⟨String.ofList name, .present⟩] }

/-- Whether a text writes attributes and the closing bracket of a tag, by which one tag becomes
another. -/
inductive Attributes (engine : Expression.Engine) : Tag → List Char → Tag → Prop
  | close {tag : Tag} {b : List Char} (blank : Blank b) : Attributes engine tag (b ++ ['>']) tag
  | bare {tag tag' : Tag} {b name cs : List Char} (blank : Blank b) (isName : IsName name)
      (ends : EndsName cs) (others : Attributes engine (withPresent tag name) cs tag') :
      Attributes engine tag (b ++ (name ++ cs)) tag'
  | valued {tag tag' tag'' : Tag} {b name before after raw cs : List Char} {quote : Char}
      (blank : Blank b) (isName : IsName name) (blankBefore : Blank before)
      (blankAfter : Blank after) (isQuote : quote = '\'' ∨ quote = '"')
      (inside : Quoted.Inside quote raw)
      (puts : Puts engine tag name (Quoted.meaning false quote raw) tag')
      (others : Attributes engine tag' cs tag'') :
      Attributes engine tag
        (b ++ (name ++ (before ++ '=' :: (after ++ quote :: (raw ++ quote :: cs))))) tag''

section

variable {engine : Expression.Engine} {tag tag' : Tag} {left : Nat} {cs rest after : List Char}

theorem readExpression_eq_ok {place : ExpressionPlace} {text : List Char} {e : Expression} :
    readExpression engine place left text = .ok e ↔ engine (String.ofList text) = .ok e := by
  unfold readExpression
  split
  · next read => simp only [read, Except.ok.injEq]
  · next read => simp [read]
  · next read => simp [read]

theorem readValue_eq_ok {value : List Char} :
    readValue cs = .ok (value, rest)
      ↔ ∃ quote raw, (quote = '\'' ∨ quote = '"') ∧ Quoted.Inside quote raw
          ∧ cs = quote :: (raw ++ quote :: rest) ∧ value = Quoted.meaning false quote raw := by
  constructor
  · intro h
    unfold readValue at h
    split at h
    · cases h
    · next quote tail =>
      split at h
      · next isQuote =>
        split at h
        · next read =>
          cases h
          obtain ⟨raw, inside, rfl, rfl⟩ := Quoted.inside_of_read read
          exact ⟨quote, raw, by simpa using isQuote, inside, rfl, rfl⟩
        · cases h
      · cases h
  · rintro ⟨quote, raw, isQuote, inside, rfl, rfl⟩
    have ordinary : quote ≠ '\\' := by
      rcases isQuote with rfl | rfl <;> decide
    unfold readValue
    simp only [Bool.or_eq_true, beq_iff_eq, isQuote, if_true, inside.read false ordinary]

theorem isName_takeWhile {c : Char} (first : isNameChar c = true) (cs : List Char) :
    IsName ((c :: cs).takeWhile isNameChar) :=
  ⟨by rw [List.takeWhile_cons_of_pos first]; exact List.cons_ne_nil _ _,
    fun _ mem => List.mem_takeWhile_imp mem⟩

theorem readAttribute_bare {name others : List Char} (isName : IsName name)
    (ends : EndsName others) (noValue : ∀ tail, trimStart others ≠ '=' :: tail) :
    readAttribute engine tag (name ++ others) = .ok (withPresent tag name, trimStart others) := by
  unfold readAttribute
  rw [takeWhile_name isName.chars ends, dropWhile_name isName.chars ends]
  dsimp only
  split
  · next tail equals => exact absurd equals (noValue tail)
  · rfl

theorem readAttribute_equals {name others tail : List Char} (isName : IsName name)
    (ends : EndsName others) (starts : trimStart others = '=' :: tail) :
    readAttribute engine tag (name ++ others) =
      readValue (trimStart tail) >>= fun (value, rest) =>
        if String.ofList name == testAttribute then
          readExpression engine .test ((trimStart tail).length - 1) value >>= fun e =>
            .ok ({ tag with test := some e }, rest)
        else
          .ok ({ tag with
            constraints := tag.constraints ++ [⟨String.ofList name, valueTest value⟩] }, rest) := by
  unfold readAttribute
  rw [takeWhile_name isName.chars ends, dropWhile_name isName.chars ends]
  dsimp only
  split
  · next tail' starts' =>
    cases starts.symm.trans starts'
    rfl
  · next other => exact absurd starts (other tail)

/-- What is made of a value depends on the name before it. -/
theorem puts_iff {name value : List Char} :
    (if String.ofList name == testAttribute then
        readExpression engine .test left value >>= fun e => .ok ({ tag with test := some e }, rest)
      else
        .ok ({ tag with
          constraints := tag.constraints ++ [⟨String.ofList name, valueTest value⟩] }, rest))
      = .ok (tag', after) ↔ Puts engine tag name value tag' ∧ after = rest := by
  unfold Puts
  by_cases isTest : String.ofList name = testAttribute
  · rw [if_pos (by simpa using isTest), if_pos isTest, bind_eq_ok]
    simp only [readExpression_eq_ok, Except.ok.injEq, Prod.mk.injEq]
    grind
  · rw [if_neg (by simpa using isTest), if_neg isTest]
    simp only [Except.ok.injEq, Prod.mk.injEq]
    grind

theorem readAttribute_assigned {name others tail : List Char} (isName : IsName name)
    (ends : EndsName others) (starts : trimStart others = '=' :: tail) :
    readAttribute engine tag (name ++ others) = .ok (tag', after)
      ↔ ∃ quote raw, (quote = '\'' ∨ quote = '"') ∧ Quoted.Inside quote raw
        ∧ trimStart tail = quote :: (raw ++ quote :: after)
        ∧ Puts engine tag name (Quoted.meaning false quote raw) tag' := by
  rw [readAttribute_equals isName ends starts]
  constructor
  · intro h
    obtain ⟨⟨value, rest⟩, read, h⟩ := bind_eq_ok.1 h
    obtain ⟨quote, raw, isQuote, inside, whole, rfl⟩ := readValue_eq_ok.1 read
    obtain ⟨puts, rfl⟩ := puts_iff.1 h
    exact ⟨quote, raw, isQuote, inside, whole, puts⟩
  · rintro ⟨quote, raw, isQuote, inside, whole, puts⟩
    exact bind_eq_ok.2 ⟨_, readValue_eq_ok.2 ⟨quote, raw, isQuote, inside, whole, rfl⟩,
      puts_iff.2 ⟨puts, rfl⟩⟩

/-- An attribute is read as a name alone or as one with a value between quotes. -/
theorem attribute_of_read {c : Char} (first : isNameChar c = true)
    (h : readAttribute engine tag (c :: cs) = .ok (tag', rest)) :
    ∃ name, IsName name ∧
      ((∃ others, c :: cs = name ++ others ∧ EndsName others ∧ rest = trimStart others
          ∧ tag' = withPresent tag name)
        ∨ ∃ before after quote raw, Blank before ∧ Blank after ∧ (quote = '\'' ∨ quote = '"')
          ∧ Quoted.Inside quote raw
          ∧ c :: cs = name ++ (before ++ '=' :: (after ++ quote :: (raw ++ quote :: rest)))
          ∧ Puts engine tag name (Quoted.meaning false quote raw) tag') := by
  have isName := isName_takeWhile first cs
  have ends := endsName_dropWhile (c :: cs)
  have whole := (List.takeWhile_append_dropWhile (p := isNameChar) (l := c :: cs)).symm
  generalize (c :: cs).takeWhile isNameChar = name at isName whole
  generalize (c :: cs).dropWhile isNameChar = others at ends whole
  rw [whole] at h ⊢
  refine ⟨name, isName, ?_⟩
  by_cases assigned : ∃ tail, trimStart others = '=' :: tail
  · obtain ⟨tail, equals⟩ := assigned
    obtain ⟨quote, raw, isQuote, inside, quoted, puts⟩ :=
      (readAttribute_assigned isName ends equals).1 h
    obtain ⟨before, blankBefore, eqBefore⟩ := exists_blank others
    obtain ⟨after, blankAfter, eqAfter⟩ := exists_blank tail
    rw [quoted] at eqAfter
    rw [equals, eqAfter] at eqBefore
    exact .inr ⟨before, after, quote, raw, blankBefore, blankAfter, isQuote, inside,
      congrArg (name ++ ·) eqBefore, puts⟩
  · cases (readAttribute_bare isName ends (not_exists.1 assigned)).symm.trans h
    exact .inl ⟨others, rfl, ends, rfl, rfl⟩

theorem endsName_equals {before : List Char} (blank : Blank before) (cs : List Char) :
    EndsName (before ++ '=' :: cs) :=
  blank.endsName fun c first => by
    obtain rfl : '=' = c := by simpa using first
    decide

theorem trimStart_equals {before : List Char} (blank : Blank before) (cs : List Char) :
    trimStart (before ++ '=' :: cs) = '=' :: cs := by
  rw [blank.trimStart_append, trimStart_cons (by decide)]

theorem trimStart_quote {b : List Char} {quote : Char} (blank : Blank b)
    (isQuote : quote = '\'' ∨ quote = '"') (cs : List Char) :
    trimStart (b ++ quote :: cs) = quote :: cs := by
  rw [blank.trimStart_append, trimStart_cons (by rcases isQuote with rfl | rfl <;> decide)]

theorem readAttribute_valued {name before after raw rest : List Char} {quote : Char}
    (isName : IsName name) (blankBefore : Blank before) (blankAfter : Blank after)
    (isQuote : quote = '\'' ∨ quote = '"') (inside : Quoted.Inside quote raw)
    (puts : Puts engine tag name (Quoted.meaning false quote raw) tag') :
    readAttribute engine tag
        (name ++ (before ++ '=' :: (after ++ quote :: (raw ++ quote :: rest))))
      = .ok (tag', rest) :=
  (readAttribute_assigned isName (endsName_equals blankBefore _) (trimStart_equals blankBefore _)).2
    ⟨quote, raw, isQuote, inside, trimStart_quote blankAfter isQuote _, puts⟩

/-- After white space, attributes start with a name or the closing bracket. -/
theorem Attributes.starts (h : Attributes engine tag cs tag') (rest : List Char) :
    ∃ c tail, trimStart (cs ++ rest) = c :: tail ∧ (c = '>' ∨ isNameChar c = true) := by
  have name {b name cs : List Char} (blank : Blank b) (isName : IsName name) :
      ∃ c tail, trimStart (b ++ (name ++ cs)) = c :: tail ∧ (c = '>' ∨ isNameChar c = true) := by
    obtain ⟨c, name, rfl⟩ := List.exists_cons_of_ne_nil isName.nonempty
    have first := isName.chars c (by simp)
    exact ⟨c, name ++ cs, by
      rw [blank.trimStart_append, List.cons_append, trimStart_cons (isSpace_of_isNameChar first)],
      .inr first⟩
  cases h with
  | close blank =>
    exact ⟨'>', rest, by
      rw [List.append_assoc, blank.trimStart_append, List.singleton_append,
        trimStart_cons (by decide)], .inl rfl⟩
  | bare blank isName =>
    simp only [List.append_assoc]
    exact name blank isName
  | valued blank isName =>
    simp only [List.append_assoc]
    exact name blank isName

theorem Attributes.ne_nil (h : Attributes engine tag cs tag') : cs ≠ [] := by
  rintro rfl
  obtain ⟨c, tail, starts, -⟩ := h.starts []
  cases starts

theorem readAttributes_trimStart {cs' : List Char} (same : trimStart cs' = trimStart cs) :
    readAttributes engine left tag cs' = readAttributes engine left tag cs := by
  rw [readAttributes_eq, readAttributes_eq, same]

theorem readAttributes_close (starts : trimStart cs = '>' :: rest) :
    readAttributes engine left tag cs = .ok (tag, rest) := by
  rw [readAttributes_eq, starts]
  rfl

theorem readAttributes_cons {c : Char} (starts : trimStart cs = c :: rest)
    (first : isNameChar c = true) :
    readAttributes engine left tag cs
      = readAttribute engine tag (c :: rest) >>= fun (tag, rest) =>
          readAttributes engine left tag rest := by
  have open' : c ≠ '>' := by
    rintro rfl
    exact absurd first (by decide)
  rw [readAttributes_eq, starts]
  exact (if_neg (by simpa using open')).trans (if_pos first)

theorem readAttributes_name {c : Char} (starts : trimStart cs = c :: rest)
    (first : isNameChar c = true) :
    readAttributes engine left tag cs = .ok (tag', after)
      ↔ ∃ tag1 mid, readAttribute engine tag (c :: rest) = .ok (tag1, mid)
          ∧ readAttributes engine left tag1 mid = .ok (tag', after) := by
  rw [readAttributes_cons starts first, bind_eq_ok, Prod.exists]

/-- White space may stand before attributes. -/
theorem Attributes.blank_append {b : List Char} (h : Attributes engine tag cs tag')
    (before : Blank b) : Attributes engine tag (b ++ cs) tag' := by
  have both {b' : List Char} (blank : Blank b') : Blank (b ++ b') :=
    List.forall_mem_append.2 ⟨before, blank⟩
  cases h with
  | close blank =>
    rw [← List.append_assoc]
    exact .close (both blank)
  | bare blank isName ends others =>
    rw [← List.append_assoc]
    exact .bare (both blank) isName ends others
  | valued blank isName blankBefore blankAfter isQuote inside puts others =>
    rw [← List.append_assoc]
    exact .valued (both blank) isName blankBefore blankAfter isQuote inside puts others

theorem attributes_of_read (h : readAttributes engine left tag cs = .ok (tag', rest)) :
    ∃ text, cs = text ++ rest ∧ Attributes engine tag text tag' := by
  fun_induction readAttributes engine left tag cs with
  | case2 tag cs c tail starts isClose =>
    cases h
    obtain ⟨b, blank, eq⟩ := exists_blank cs
    obtain rfl : c = '>' := by simpa using isClose
    refine ⟨b ++ ['>'], ?_, .close blank⟩
    rw [List.append_assoc, List.singleton_append, ← starts]
    exact eq
  | case4 tag cs c tail starts _ first tag1 after read ih =>
    obtain ⟨b, blank, eq⟩ := exists_blank cs
    obtain ⟨text, rfl, written⟩ := ih h
    rw [starts] at eq
    obtain ⟨name, isName, shape⟩ := attribute_of_read first read
    rcases shape with ⟨others, whole, ends, trimmed, rfl⟩
      | ⟨before, after', quote, raw, blankBefore, blankAfter, isQuote, inside, whole, puts⟩
    · obtain ⟨b', blank', eq'⟩ := exists_blank others
      rw [← trimmed, ← List.append_assoc] at eq'
      refine ⟨b ++ (name ++ (b' ++ text)), ?_,
        .bare blank isName ?_ (written.blank_append blank')⟩
      · rw [eq, whole, eq']
        simp only [List.append_assoc]
      · rw [eq'] at ends
        exact ends.of_append
    · refine ⟨_, ?_, .valued blank isName blankBefore blankAfter isQuote inside puts written⟩
      rw [eq, whole]
      simp only [List.append_assoc, List.cons_append]
  | _ => cases h

theorem Attributes.read (h : Attributes engine tag cs tag') (left : Nat) {whole : List Char}
    (same : trimStart whole = trimStart (cs ++ rest)) :
    readAttributes engine left tag whole = .ok (tag', rest) := by
  induction h generalizing whole with
  | close blank =>
    refine readAttributes_close ?_
    rw [same, List.append_assoc, blank.trimStart_append]
    rfl
  | @bare tag tag' b name cs blank isName ends others ih =>
    obtain ⟨c, name', rfl⟩ := List.exists_cons_of_ne_nil isName.nonempty
    have first := isName.chars c (by simp)
    rw [List.append_assoc, blank.trimStart_append, List.append_assoc, List.cons_append,
      trimStart_cons (isSpace_of_isNameChar first)] at same
    obtain ⟨d, tail, starts, kind⟩ := others.starts rest
    have noValue : ∀ tail, trimStart (cs ++ rest) ≠ '=' :: tail := by
      intro tail' equals
      cases starts.symm.trans equals
      rcases kind with kind | kind <;> exact absurd kind (by decide)
    have ends' : EndsName (cs ++ rest) := ends.append others.ne_nil rest
    exact (readAttributes_name same first).2
      ⟨_, _, readAttribute_bare isName ends' noValue, ih (trimStart_idem _)⟩
  | @valued tag tag' tag'' b name before after raw cs quote blank isName blankBefore blankAfter
      isQuote inside puts others ih =>
    obtain ⟨c, name', rfl⟩ := List.exists_cons_of_ne_nil isName.nonempty
    have first := isName.chars c (by simp)
    have read : readAttribute engine tag (c :: name'
        ++ (before ++ '=' :: (after ++ quote :: (raw ++ quote :: (cs ++ rest)))))
          = .ok (tag', cs ++ rest) :=
      readAttribute_valued isName blankBefore blankAfter isQuote inside puts
    simp only [List.append_assoc, List.cons_append, blank.trimStart_append] at same read
    rw [trimStart_cons (isSpace_of_isNameChar first)] at same
    exact (readAttributes_name same first).2 ⟨_, _, read, ih rfl⟩

/-- The reader of attributes accepts just the texts that write them. -/
theorem readAttributes_eq_ok :
    readAttributes engine left tag cs = .ok (tag', rest)
      ↔ ∃ text, cs = text ++ rest ∧ Attributes engine tag text tag' := by
  constructor
  · exact attributes_of_read
  · rintro ⟨text, rfl, written⟩
    exact written.read left rfl

end

/-! ## Tags -/

/-- Whether a text writes a tag, from after its opening bracket on. -/
inductive TagText (options : Options) : List Char → Tag → Prop
  | intro {tag : Tag} {b type attributes : List Char} (blank : Blank b) (isName : IsName type)
      (allowed : options.allowsType type = true) (ends : EndsName attributes)
      (written : Attributes options.engine ⟨String.ofList type, [], none⟩ attributes tag) :
      TagText options (b ++ (type ++ attributes)) tag

theorem isName_of_allowsType {options : Options} {type : List Char}
    (allowed : options.allowsType type = true) : type ≠ [] := by
  rintro rfl
  simp [Options.allowsType] at allowed

/-- The reader of tags accepts just the texts that write them. -/
theorem readTag_eq_ok {options : Options} {tag : Tag} {cs rest : List Char} :
    readTag options cs = .ok (tag, rest)
      ↔ ∃ text, cs = text ++ rest ∧ TagText options text tag := by
  constructor
  · intro h
    unfold readTag at h
    dsimp only at h
    split at h
    · next allowed =>
      obtain ⟨b, blank, eq⟩ := exists_blank cs
      obtain ⟨text, whole, written⟩ := readAttributes_eq_ok.1 h
      have ends := endsName_dropWhile (trimStart cs)
      rw [whole] at ends
      refine ⟨b ++ ((trimStart cs).takeWhile isNameChar ++ text), ?_,
        .intro blank ⟨isName_of_allowsType allowed, fun _ mem => List.mem_takeWhile_imp mem⟩ allowed
          ends.of_append written⟩
      rw [List.append_assoc, List.append_assoc, ← whole, List.takeWhile_append_dropWhile]
      exact eq
    · cases h
  · rintro ⟨text, rfl, written⟩
    cases written with
    | @intro _ b type attributes blank isName allowed ends written =>
      obtain ⟨c, type', rfl⟩ := List.exists_cons_of_ne_nil isName.nonempty
      have ends' : EndsName (attributes ++ rest) := ends.append written.ne_nil rest
      have trimmed : trimStart (b ++ (c :: type' ++ attributes) ++ rest)
          = c :: type' ++ (attributes ++ rest) := by
        rw [List.append_assoc, blank.trimStart_append, List.append_assoc, List.cons_append,
          trimStart_cons (isSpace_of_isNameChar (isName.chars c (by simp)))]
      unfold readTag
      rw [trimmed, takeWhile_name isName.chars ends', dropWhile_name isName.chars ends']
      dsimp only
      rw [if_pos allowed]
      exact written.read _ rfl

end SpanSearch.Pattern
