import Mathlib
import SpanSearch.Proofs.Pattern.Cuts

/-! # White space between the parts of a pattern

However much white space is put between the parts of a text, before and after them, the text
compiles to the same elements. A part outside of tags is read to its end and no further. Within a
tag, texts with the same parts are read alike, whichever part of an attribute comes before.
-/

namespace SpanSearch.Pattern

open Unicode

section

variable {options : Options} {engine : Expression.Engine} {left : Nat} {tag tag' : Tag} {c : Char}
  {cs cs' b w rest rest' after name : List Char} {parts parts' inner : List (List Char)} {p : Piece}
  {ps : List Piece}

/-! ## Outside of tags -/

theorem exists_policy (h : BracketText w) : ∃ policy, Writable policy ∧ printPolicy policy = w := by
  cases h with
  | none => exact ⟨.join none, trivial, rfl⟩
  | some noBackslash => exact ⟨_, writable_policyOf noBackslash, printPolicy_policyOf _⟩

theorem readTarget_stops {bracket : List Char} {e : Option Expression} {s : Setter}
    (isName : IsName name) (bracketText : BracketText bracket) (boundary : Boundary rest)
    (reads : readTarget left e (name ++ (bracket ++ rest)) = .ok (s, after)) : after = rest := by
  obtain ⟨policy, writable, rfl⟩ := exists_policy bracketText
  cases (readTarget_written isName writable fun _ => boundary).symm.trans reads
  rfl

theorem readSetter_stops {scope bracket : List Char} {s : Setter} (scopeText : ScopeText scope)
    (isName : IsName name) (bracketText : BracketText bracket) (boundary : Boundary rest)
    (reads : readSetter engine (scope ++ (name ++ (bracket ++ rest))) = .ok (s, after)) :
    after = rest := by
  cases scopeText with
  | none =>
    rw [List.nil_append, readSetter_name isName] at reads
    exact readTarget_stops isName bracketText boundary reads
  | @some text balanced =>
    simp only [List.cons_append, List.append_assoc, List.nil_append] at reads
    rw [readSetter_scope balanced] at reads
    obtain ⟨e, -, reads⟩ := bind_eq_ok.1 reads
    exact readTarget_stops isName bracketText boundary reads

theorem readLiteral_stops {tokenizer : Tokenizer} {raw : List Char} {a : Atom}
    (inside : Quoted.Inside '\'' raw)
    (reads : readLiteral tokenizer (raw ++ '\'' :: rest) = .ok (a, after)) : after = rest := by
  unfold readLiteral at reads
  simp only [inside.read true (by decide)] at reads
  split at reads
  · cases reads
  · cases reads
    rfl

theorem readRegex_stops {raw : List Char} {a : Atom} (inside : Quoted.Inside '"' raw)
    (reads : readRegex (raw ++ '"' :: rest) = .ok (a, after)) : after = rest := by
  unfold readRegex at reads
  simp only [inside.read false (by decide)] at reads
  split at reads
  · cases reads
  · split at reads
    · cases reads
    · cases reads
      rfl

theorem readBounds_stops {inner : List Char} {bounds : Bounds} (within : '}' ∉ inner)
    (reads : readBounds '{' (inner ++ '}' :: rest) = .ok (bounds, after)) : after = rest := by
  have others : ∀ c ∈ inner, (c != '}') = true := fun c mem => by
    rw [bne_iff_ne]
    rintro rfl
    exact within mem
  unfold readBounds at reads
  rw [List.dropWhile_append_of_pos others, List.takeWhile_append_of_pos others] at reads
  simp only [Char.reduceBEq, bne_self_eq_false, Bool.false_eq_true, if_false,
    not_false_eq_true, List.dropWhile_cons_of_neg, List.takeWhile_cons_of_neg,
    List.append_nil] at reads
  split at reads
  · cases reads
    rfl
  · cases reads

/-- A part outside of tags is read to its end and no further. -/
theorem Unbroken.stops (h : Unbroken (c :: w)) (boundary : Boundary rest)
    (reads : readPiece options c (w ++ rest) = .ok (p, after)) : after = rest := by
  generalize whole : c :: w = part at h
  cases h with
  | @mark d isMark =>
    cases whole
    simp only [List.mem_cons, List.not_mem_nil, or_false] at isMark
    rcases isMark with rfl | rfl | rfl | rfl | rfl | rfl <;> cases reads <;> rfl
  | @quoted quote raw isQuote inside =>
    cases whole
    rw [List.append_assoc, List.singleton_append] at reads
    rcases isQuote with rfl | rfl
    · rw [readPiece_atom (by decide) (by decide) (by decide) (by decide) (by decide)] at reads
      obtain ⟨_, read, eq⟩ := map_eq_ok.1 reads
      cases eq
      exact readLiteral_stops inside read
    · rw [readPiece_atom (by decide) (by decide) (by decide) (by decide) (by decide)] at reads
      obtain ⟨_, read, eq⟩ := map_eq_ok.1 reads
      cases eq
      exact readRegex_stops inside read
  | @braces inner within =>
    cases whole
    rw [List.append_assoc, List.singleton_append, readPiece_bounds (by decide)] at reads
    obtain ⟨_, read, eq⟩ := map_eq_ok.1 reads
    cases eq
    exact readBounds_stops within read
  | @setter scope name bracket scopeText isName bracketText =>
    cases whole
    rw [List.append_assoc, List.append_assoc, readPiece_setter] at reads
    obtain ⟨_, read, eq⟩ := map_eq_ok.1 reads
    cases eq
    exact readSetter_stops scopeText isName bracketText boundary read

/-! ## Tags -/

/-- How a tag is read on after the name of an attribute and an equals sign. -/
inductive Assigns (engine : Expression.Engine) (tag : Tag) (name cs : List Char) (tag' : Tag)
    (after : List Char) : Prop
  | intro {tag1 : Tag} {quote : Char} {raw rest : List Char} (isQuote : quote = '\'' ∨ quote = '"')
      (inside : Quoted.Inside quote raw) (starts : trimStart cs = quote :: (raw ++ quote :: rest))
      (puts : Puts engine tag name (Quoted.meaning false quote raw) tag1)
      (others : readAttributes engine 0 tag1 rest = .ok (tag', after)) :
      Assigns engine tag name cs tag' after

/-- How a tag is read on after the name of an attribute. -/
def Continues (engine : Expression.Engine) (tag : Tag) (name cs : List Char) (tag' : Tag)
    (after : List Char) : Prop :=
  match trimStart cs with
  | '=' :: tail => Assigns engine tag name tail tag' after
  | _ => readAttributes engine 0 (withPresent tag name) cs = .ok (tag', after)

theorem readAttributes_left (left' : Nat) :
    readAttributes engine left tag cs = .ok (tag', after)
      ↔ readAttributes engine left' tag cs = .ok (tag', after) := by
  rw [readAttributes_eq_ok, readAttributes_eq_ok]

theorem Assigns.of_trimStart (h : Assigns engine tag name cs tag' after)
    (same : trimStart cs' = trimStart cs) : Assigns engine tag name cs' tag' after := by
  obtain ⟨isQuote, inside, starts, puts, others⟩ := h
  exact ⟨isQuote, inside, same.trans starts, puts, others⟩

theorem continues_trimStart (same : trimStart cs' = trimStart cs) :
    Continues engine tag name cs' tag' after ↔ Continues engine tag name cs tag' after := by
  unfold Continues
  rw [same]
  split
  · rfl
  · rw [readAttributes_trimStart same]

theorem continues_equals {tail : List Char} (starts : trimStart cs = '=' :: tail) :
    Continues engine tag name cs tag' after ↔ Assigns engine tag name tail tag' after := by
  unfold Continues
  split
  · next tail' starts' =>
    cases starts.symm.trans starts'
    rfl
  · next other => exact absurd starts (other tail)

theorem continues_other (other : ∀ tail, trimStart cs ≠ '=' :: tail) :
    Continues engine tag name cs tag' after
      ↔ readAttributes engine 0 (withPresent tag name) cs = .ok (tag', after) := by
  unfold Continues
  split
  · next tail starts => exact absurd starts (other tail)
  · rfl

/-- An attribute is read as its name and what comes after that. -/
theorem readAttributes_named (isName : IsName name) (ends : EndsName cs) :
    readAttributes engine 0 tag (name ++ cs) = .ok (tag', after)
      ↔ Continues engine tag name cs tag' after := by
  obtain ⟨c, name', rfl⟩ := List.exists_cons_of_ne_nil isName.nonempty
  have first := isName.chars c (by simp)
  have starts : trimStart (c :: name' ++ cs) = c :: (name' ++ cs) :=
    trimStart_cons (isSpace_of_isNameChar first) _
  rw [readAttributes_name starts first, ← List.cons_append]
  by_cases assigned : ∃ tail, trimStart cs = '=' :: tail
  · obtain ⟨tail, equals⟩ := assigned
    rw [continues_equals equals]
    constructor
    · rintro ⟨tag1, mid, read, others⟩
      obtain ⟨quote, raw, isQuote, inside, whole, puts⟩ :=
        (readAttribute_assigned isName ends equals).1 read
      exact ⟨isQuote, inside, whole, puts, others⟩
    · rintro ⟨isQuote, inside, whole, puts, others⟩
      exact ⟨_, _, (readAttribute_assigned isName ends equals).2
        ⟨_, _, isQuote, inside, whole, puts⟩, others⟩
  · have noValue := not_exists.1 assigned
    rw [continues_other noValue, readAttribute_bare isName ends noValue,
      ← readAttributes_trimStart (trimStart_idem cs)]
    constructor
    · rintro ⟨_, _, ⟨⟩, others⟩
      exact others
    · intro others
      exact ⟨_, _, rfl, others⟩

/-- Whether what is read of a tag from one text up to its rest is read from another up to its rest,
whichever part of an attribute comes before. -/
structure Alike (engine : Expression.Engine) (cs rest cs' rest' : List Char) : Prop where
  attributes : ∀ {tag tag' after}, readAttributes engine 0 tag cs = .ok (tag', after) →
    after = rest ∧ readAttributes engine 0 tag cs' = .ok (tag', rest')
  named : ∀ {tag name tag' after}, Continues engine tag name cs tag' after →
    after = rest ∧ Continues engine tag name cs' tag' rest'
  assigned : ∀ {tag name tag' after}, Assigns engine tag name cs tag' after →
    after = rest ∧ Assigns engine tag name cs' tag' rest'

theorem Alike.of_trimStart {ds ds' : List Char} (h : Alike engine cs rest cs' rest')
    (same : trimStart ds = trimStart cs) (same' : trimStart ds' = trimStart cs') :
    Alike engine ds rest ds' rest' where
  attributes reads := by
    rw [readAttributes_trimStart same] at reads
    rw [readAttributes_trimStart same']
    exact h.attributes reads
  named reads := by
    rw [continues_trimStart same] at reads
    rw [continues_trimStart same']
    exact h.named reads
  assigned reads :=
    (h.assigned (reads.of_trimStart same.symm)).imp_right (·.of_trimStart same')

theorem Alike.close : Alike engine ('>' :: rest) rest ('>' :: rest') rest' where
  attributes reads := by
    cases (readAttributes_close rfl).symm.trans reads
    exact ⟨rfl, readAttributes_close rfl⟩
  named {tag name tag' after} reads := by
    rw [continues_other (by rintro _ ⟨⟩)] at reads
    rw [continues_other (by rintro _ ⟨⟩)]
    cases (readAttributes_close rfl).symm.trans reads
    exact ⟨rfl, readAttributes_close rfl⟩
  assigned reads := by
    obtain ⟨isQuote, inside, starts, puts, others⟩ := reads
    cases starts
    simp at isQuote

theorem trimStart_name (isName : IsName name) (cs : List Char) :
    ∃ c tail, trimStart (name ++ cs) = c :: tail ∧ isNameChar c = true := by
  obtain ⟨c, name, rfl⟩ := List.exists_cons_of_ne_nil isName.nonempty
  have first := isName.chars c (by simp)
  exact ⟨c, name ++ cs, trimStart_cons (isSpace_of_isNameChar first) _, first⟩

/-- Neither an equals sign nor a value comes first among attributes. -/
theorem starts_of_readAttributes (starts : trimStart cs = c :: rest)
    (reads : readAttributes engine left tag cs = .ok (tag', after)) :
    c = '>' ∨ isNameChar c = true := by
  obtain ⟨text, rfl, written⟩ := readAttributes_eq_ok.1 reads
  obtain ⟨d, tail, starts', kind⟩ := written.starts after
  cases starts.symm.trans starts'
  exact kind

theorem Alike.name_append (isName : IsName name) (ends : EndsName cs) (ends' : EndsName cs')
    (h : Alike engine cs rest cs' rest') : Alike engine (name ++ cs) rest (name ++ cs') rest' := by
  have attributes {tag tag' after}
      (reads : readAttributes engine 0 tag (name ++ cs) = .ok (tag', after)) :
      after = rest ∧ readAttributes engine 0 tag (name ++ cs') = .ok (tag', rest') := by
    rw [readAttributes_named isName ends] at reads
    rw [readAttributes_named isName ends']
    exact h.named reads
  have noValue (cs tail : List Char) : trimStart (name ++ cs) ≠ '=' :: tail := by
    obtain ⟨c, tail', starts, first⟩ := trimStart_name isName cs
    intro equals
    cases starts.symm.trans equals
    exact absurd first (by decide)
  refine ⟨attributes, fun reads => ?_, fun reads => ?_⟩
  · rw [continues_other (noValue cs)] at reads
    rw [continues_other (noValue cs')]
    exact attributes reads
  · obtain ⟨isQuote, inside, quoted, puts, others⟩ := reads
    obtain ⟨c, tail, starts, first⟩ := trimStart_name isName cs
    cases starts.symm.trans quoted
    rcases isQuote with rfl | rfl <;> exact absurd first (by decide)

theorem Alike.equals_cons (h : Alike engine cs rest cs' rest') :
    Alike engine ('=' :: cs) rest ('=' :: cs') rest' where
  attributes reads := by
    rcases starts_of_readAttributes rfl reads with kind | kind <;> exact absurd kind (by decide)
  named reads := by
    rw [continues_equals rfl] at reads
    rw [continues_equals rfl]
    exact h.assigned reads
  assigned reads := by
    obtain ⟨isQuote, inside, starts, puts, others⟩ := reads
    cases starts
    simp at isQuote

theorem Alike.value_append {quote : Char} {raw : List Char} (isQuote : quote = '\'' ∨ quote = '"')
    (inside : Quoted.Inside quote raw) (h : Alike engine cs rest cs' rest') :
    Alike engine (quote :: (raw ++ quote :: cs)) rest (quote :: (raw ++ quote :: cs')) rest' := by
  have ordinary : quote ≠ '\\' := by rcases isQuote with rfl | rfl <;> decide
  have starts (tail : List Char) : trimStart (quote :: tail) = quote :: tail :=
    trimStart_cons (by rcases isQuote with rfl | rfl <;> decide) tail
  have attributes {tag tag' after} :
      readAttributes engine 0 tag (quote :: (raw ++ quote :: cs)) ≠ .ok (tag', after) := by
    intro reads
    rcases starts_of_readAttributes (starts _) reads with kind | kind <;>
      rcases isQuote with rfl | rfl <;> exact absurd kind (by decide)
  have noValue (tail tail' : List Char) : trimStart (quote :: tail) ≠ '=' :: tail' := by
    rw [starts]
    rintro ⟨⟩
    simp at isQuote
  refine ⟨fun reads => absurd reads attributes, fun reads => ?_, fun reads => ?_⟩
  · rw [continues_other (noValue _)] at reads
    exact absurd reads attributes
  · obtain ⟨isQuote', inside', quoted, puts, others⟩ := reads
    rw [starts] at quoted
    obtain ⟨rfl, whole⟩ := List.cons.inj quoted
    -- the value ends at the first quote that stands by itself
    have first := inside.read false ordinary cs
    rw [whole, inside'.read false ordinary] at first
    obtain ⟨same, rfl⟩ := Prod.mk.inj (Option.some.inj first)
    rw [same] at puts
    obtain ⟨rfl, others⟩ := h.attributes others
    exact ⟨rfl, isQuote, inside, starts _, puts, others⟩

theorem TagCut.head_ne_nil (h : TagCut (w :: parts)) : w ≠ [] := by
  cases h with
  | name isName => exact isName.nonempty
  | _ => exact List.cons_ne_nil _ _

/-- With white space between them, the parts of a tag do not go on with a name either. -/
theorem TagCut.endsName (h : TagCut parts) (ends : EndsName parts.flatten) (airs : Airs parts cs)
    (rest : List Char) : EndsName (cs ++ rest) := by
  cases airs with
  | nil => cases h
  | @cons b w cs parts blank others =>
    rw [List.append_assoc, List.append_assoc]
    exact blank.endsName (ends.of_append.append h.head_ne_nil _)

theorem trimStart_space (space : isSpace c = true) (cs : List Char) :
    trimStart ([c] ++ cs) = trimStart cs :=
  List.dropWhile_cons_of_pos space

theorem Blank.trimStart_part (blank : Blank b) (w cs rest : List Char) :
    trimStart (b ++ (w ++ cs) ++ rest) = trimStart (w ++ (cs ++ rest)) := by
  rw [List.append_assoc, blank.trimStart_append, List.append_assoc]

/-- Texts with the same parts of a tag are read alike. -/
theorem TagCut.alike (h : TagCut parts) (airs : Airs parts cs) (airs' : Airs parts cs')
    (rest rest' : List Char) : Alike engine (cs ++ rest) rest (cs' ++ rest') rest' := by
  induction h generalizing cs cs' with
  | close =>
    cases airs with | @cons b _ _ _ blank others =>
    cases airs' with | @cons b' _ _ _ blank' others' =>
    cases others
    cases others'
    exact Alike.close.of_trimStart (blank.trimStart_part ..) (blank'.trimStart_part ..)
  | @space c parts space _ ih =>
    cases airs with | @cons b _ cs _ blank others =>
    cases airs' with | @cons b' _ cs' _ blank' others' =>
    exact (ih others others').of_trimStart
      ((blank.trimStart_part ..).trans (trimStart_space space _))
      ((blank'.trimStart_part ..).trans (trimStart_space space _))
  | @name name parts isName ends tag ih =>
    cases airs with | @cons b _ cs _ blank others =>
    cases airs' with | @cons b' _ cs' _ blank' others' =>
    have named := (ih others others').name_append isName (tag.endsName ends others rest)
      (tag.endsName ends others' rest')
    exact named.of_trimStart (blank.trimStart_part ..) (blank'.trimStart_part ..)
  | equals _ ih =>
    cases airs with | @cons b _ cs _ blank others =>
    cases airs' with | @cons b' _ cs' _ blank' others' =>
    exact (ih others others').equals_cons.of_trimStart (blank.trimStart_part ..)
      (blank'.trimStart_part ..)
  | @value quote raw parts isQuote inside _ ih =>
    cases airs with | @cons b _ cs _ blank others =>
    cases airs' with | @cons b' _ cs' _ blank' others' =>
    have value := (ih others others').value_append isQuote inside
    have whole (cs : List Char) :
        (quote :: (raw ++ [quote])) ++ cs = quote :: (raw ++ quote :: cs) := by
      simp
    rw [← whole (cs ++ rest), ← whole (cs' ++ rest')] at value
    exact value.of_trimStart (blank.trimStart_part ..) (blank'.trimStart_part ..)

/-- The type of a tag is read as a name and what comes after that. -/
theorem readTag_named {whole : List Char} (isName : IsName name) (ends : EndsName cs)
    (starts : trimStart whole = trimStart (name ++ cs)) :
    readTag options whole = .ok (tag, after)
      ↔ options.allowsType name = true
        ∧ readAttributes options.engine 0 ⟨String.ofList name, [], none⟩ cs = .ok (tag, after) := by
  obtain ⟨c, tail, starts', first⟩ := trimStart_name isName cs
  have trimmed : trimStart (name ++ cs) = name ++ cs := by
    obtain ⟨d, name, rfl⟩ := List.exists_cons_of_ne_nil isName.nonempty
    exact trimStart_cons (isSpace_of_isNameChar (isName.chars d (by simp))) _
  unfold readTag
  rw [starts, trimmed, takeWhile_name isName.chars ends, dropWhile_name isName.chars ends]
  dsimp only
  split
  · next allowed => rw [readAttributes_left 0, and_iff_right allowed]
  · next refused => simp [refused]

theorem starts_of_readTag (starts : trimStart cs = c :: rest)
    (reads : readTag options cs = .ok (tag, after)) : isNameChar c = true := by
  obtain ⟨_, rfl, ⟨blank, isName, -, -, -⟩⟩ := readTag_eq_ok.1 reads
  rw [List.append_assoc, blank.trimStart_append, List.append_assoc] at starts
  obtain ⟨d, tail, starts', first⟩ := trimStart_name isName (_ ++ after)
  cases starts.symm.trans starts'
  exact first

theorem readTag_trimStart (same : trimStart cs' = trimStart cs)
    (reads : readTag options cs = .ok (tag, after)) : readTag options cs' = .ok (tag, after) := by
  obtain ⟨_, rfl, ⟨blank, isName, allowed, ends, written⟩⟩ := readTag_eq_ok.1 reads
  rw [List.append_assoc, blank.trimStart_append, List.append_assoc] at same
  have ends' := ends.append written.ne_nil after
  refine (readTag_named isName ends' same).2 ⟨allowed, ?_⟩
  exact readAttributes_eq_ok.2 ⟨_, rfl, written⟩

/-- The first part of a tag that is no white space belongs to a name. -/
theorem Airs.starts_of_readTag (airs : Airs ((c :: w) :: parts) cs) (noSpace : isSpace c = false)
    (reads : readTag options (cs ++ rest) = .ok (tag, after)) : isNameChar c = true := by
  cases airs with | @cons b _ cs _ blank others =>
  have starts := (blank.trimStart_part (c :: w) cs rest).trans (trimStart_cons noSpace _)
  exact Pattern.starts_of_readTag starts reads

/-- Texts with the same parts of a tag are read as the same tag. -/
theorem TagCut.readTag (h : TagCut parts) (airs : Airs parts cs) (airs' : Airs parts cs')
    (rest' : List Char) (reads : readTag options (cs ++ rest) = .ok (tag, after)) :
    after = rest ∧ readTag options (cs' ++ rest') = .ok (tag, rest') := by
  induction h generalizing cs cs' with
  | close => exact absurd (airs.starts_of_readTag (by decide) reads) (by decide)
  | @space c parts space _ ih =>
    cases airs with | @cons b _ cs _ blank others =>
    cases airs' with | @cons b' _ cs' _ blank' others' =>
    have same := (blank.trimStart_part [c] cs rest).trans (trimStart_space space _)
    have same' := (blank'.trimStart_part [c] cs' rest').trans (trimStart_space space _)
    have inner := ih others others' (readTag_trimStart same.symm reads)
    exact inner.imp_right (readTag_trimStart same')
  | @name name parts isName ends tag ih =>
    cases airs with | @cons b _ cs _ blank others =>
    cases airs' with | @cons b' _ cs' _ blank' others' =>
    obtain ⟨allowed, reads⟩ :=
      (readTag_named isName (tag.endsName ends others rest) (blank.trimStart_part ..)).1 reads
    obtain ⟨rfl, reads'⟩ := (tag.alike others others' rest rest').attributes reads
    exact ⟨rfl, (readTag_named isName (tag.endsName ends others' rest')
      (blank'.trimStart_part ..)).2 ⟨allowed, reads'⟩⟩
  | equals _ => exact absurd (airs.starts_of_readTag (by decide) reads) (by decide)
  | value isQuote =>
    rcases isQuote with rfl | rfl <;>
      exact absurd (airs.starts_of_readTag (by decide) reads) (by decide)

/-! ## Patterns -/

/-- A part outside of tags is read as the same piece wherever it stands. -/
theorem Unbroken.read (h : Unbroken (c :: w)) (boundary : Boundary rest)
    (boundary' : Boundary rest') (reads : readPiece options c (w ++ rest) = .ok (p, after)) :
    after = rest ∧ readPiece options c (w ++ rest') = .ok (p, rest') := by
  obtain rfl := h.stops boundary reads
  refine ⟨rfl, ?_⟩
  obtain ⟨w', whole, word⟩ := word_of_readPiece reads
  obtain rfl := List.append_cancel_right ((List.cons_append ..).trans whole)
  obtain ⟨d, tail, eq, -, reads'⟩ := word.read boundary'
  cases eq
  exact reads'

theorem readPiece_tag :
    readPiece options '<' cs = .ok (p, after)
      ↔ ∃ tag, p = .atom (.tag tag) ∧ readTag options cs = .ok (tag, after) := by
  rw [readPiece_atom (by decide) (by decide) (by decide) (by decide) (by decide)]
  constructor
  · intro h
    obtain ⟨_, atom, eq⟩ := map_eq_ok.1 h
    cases eq
    obtain ⟨_, read, eq⟩ := map_eq_ok.1 atom
    cases eq
    exact ⟨_, rfl, read⟩
  · rintro ⟨tag, rfl, read⟩
    exact map_eq_ok.2 ⟨(.tag tag, after), map_eq_ok.2 ⟨_, read, rfl⟩, rfl⟩

theorem Unbroken.starts (h : Unbroken w) :
    ∃ c rest, w = c :: rest ∧ isSpace c = false ∧ isNameChar c = false ∧ c ≠ '[' := by
  cases h with
  | @mark c isMark =>
    refine ⟨c, [], rfl, ?_⟩
    simp only [List.mem_cons, List.not_mem_nil, or_false] at isMark
    rcases isMark with rfl | rfl | rfl | rfl | rfl | rfl <;> decide
  | quoted isQuote =>
    rcases isQuote with rfl | rfl <;> exact ⟨_, _, rfl, by decide, by decide, by decide⟩
  | _ => exact ⟨_, _, rfl, by decide, by decide, by decide⟩

/-- No part goes on with a setter before it. -/
theorem Cut.boundary (h : Cut parts) (airs : Airs parts cs) (blank : Blank b) :
    Boundary (cs ++ b) := by
  have first {parts : List (List Char)} {c : Char} {rest : List Char}
      (airs : Airs ((c :: rest) :: parts) cs) (other : isNameChar c = false ∧ c ≠ '[') :
      Boundary (cs ++ b) := by
    cases airs with | @cons b' _ cs _ blank' others =>
    rw [List.append_assoc]
    refine blank'.boundary fun d eq => ?_
    obtain rfl : c = d := by simpa using eq
    exact other
  cases h with
  | nil =>
    cases airs
    rw [List.nil_append, ← List.append_nil b]
    exact blank.boundary boundary_nil
  | @space c parts space others =>
    refine first airs ⟨isNameChar_of_isSpace space, ?_⟩
    rintro rfl
    exact absurd space (by decide)
  | unbroken unbroken others =>
    obtain ⟨c, rest, rfl, -, other⟩ := unbroken.starts
    exact first airs other
  | tag => exact first airs (by decide)

/-- Texts with the same parts are rows of the same pieces. -/
theorem Cut.spells (h : Cut parts) (airs : Airs parts cs) (airs' : Airs parts cs')
    (blank : Blank b) {b' : List Char} (blank' : Blank b')
    (spells : Spells options (cs ++ b) ps) : Spells options (cs' ++ b') ps := by
  induction h generalizing cs cs' ps with
  | nil =>
    cases airs
    cases airs'
    rw [List.nil_append] at spells ⊢
    obtain rfl := (spells_blank (blank_iff_trimStart.1 blank)).1 spells
    exact .nil (blank_iff_trimStart.1 blank')
  | @space c parts space _ ih =>
    cases airs with | @cons d _ cs _ before others =>
    cases airs' with | @cons d' _ cs' _ before' others' =>
    have same := (before.trimStart_part [c] cs b).trans (trimStart_space space _)
    have same' := (before'.trimStart_part [c] cs' b').trans (trimStart_space space _)
    exact (ih others others' (spells.of_trimStart same.symm)).of_trimStart same'
  | @unbroken w parts unbroken tail ih =>
    cases airs with | @cons d _ cs _ before others =>
    cases airs' with | @cons d' _ cs' _ before' others' =>
    obtain ⟨c, w, rfl, noSpace, -⟩ := unbroken.starts
    have starts := (before.trimStart_part (c :: w) cs b).trans (trimStart_cons noSpace _)
    have starts' := (before'.trimStart_part (c :: w) cs' b').trans (trimStart_cons noSpace _)
    obtain ⟨p, after, ps, rfl, reads, later⟩ := (spells_starts starts).1 spells
    obtain ⟨rfl, reads'⟩ :=
      unbroken.read (tail.boundary others blank) (tail.boundary others' blank') reads
    exact .cons starts' reads' (ih others others' later)
  | @tag inner parts tag tail ih =>
    cases airs with | @cons d _ cs _ before others =>
    cases airs' with | @cons d' _ cs' _ before' others' =>
    obtain ⟨first, later, rfl, airs, others⟩ := airs_append others
    obtain ⟨first', later', rfl, airs', others'⟩ := airs_append others'
    have starts : trimStart (d ++ (['<'] ++ (first ++ later)) ++ b)
        = '<' :: (first ++ (later ++ b)) := by
      rw [before.trimStart_part, List.append_assoc]
      exact trimStart_cons (by decide) _
    have starts' : trimStart (d' ++ (['<'] ++ (first' ++ later')) ++ b')
        = '<' :: (first' ++ (later' ++ b')) := by
      rw [before'.trimStart_part, List.append_assoc]
      exact trimStart_cons (by decide) _
    obtain ⟨p, after, ps, rfl, piece, row⟩ := (spells_starts starts).1 spells
    obtain ⟨t, rfl, reads⟩ := readPiece_tag.1 piece
    obtain ⟨rfl, reads'⟩ := tag.readTag airs airs' (later' ++ b') reads
    exact .cons starts' (readPiece_tag.2 ⟨t, rfl, reads'⟩) (ih others others' row)

/-- A text that compiles can be cut into parts, and with white space between the parts, before and
after them it compiles to the same elements. -/
theorem compile_spaced {source : String} {p : Pattern} (h : compile options source = .ok p) :
    (∃ parts, Cut parts ∧ parts.flatten = source.toList)
      ∧ ∀ parts, Cut parts → parts.flatten = source.toList →
        ∀ text, Spaced parts text.toList → compile options text = .ok ⟨text, p.elements⟩ := by
  obtain ⟨-, nonempty, ps, written, builds⟩ := compile_eq_ok_iff_written.1 h
  refine ⟨written.exists_cut, ?_⟩
  rintro parts isCut whole text ⟨cs, b, airs, blank, same⟩
  refine compile_eq_ok.2 ⟨rfl, nonempty, ps, ?_, builds⟩
  rw [same]
  refine isCut.spells (airs_flatten parts) airs blank_nil blank ?_
  rw [List.append_nil, whole]
  exact spells_iff_written.2 written

end

/-! ## Examples -/

/-- A group of a tag that may be left out. -/
def optionalTag : List Element :=
  [.sequence [.atom (.tag ⟨"a", [⟨"x", .oneOf ["b"]⟩], none⟩) ⟨⟨0, 1⟩, []⟩] .plain]

def optionalTagParts : List (List Char) :=
  [['('], ['<'], ['a'], [' '], ['x'], ['='], ['\'', 'b', '\''], ['>'], ['?'], [')']]

theorem compile_optionalTag :
    compile ⟨.atSpace, Expression.standard, none⟩ "(<a x='b'>?)"
      = .ok ⟨"(<a x='b'>?)", optionalTag⟩ := by
  have tag : readPiece ⟨.atSpace, Expression.standard, none⟩ '<' "a x='b'>?)".toList
      = .ok (.atom (.tag ⟨"a", [⟨"x", .oneOf ["b"]⟩], none⟩), "?)".toList) := by
    cbv
  exact compile_eq_ok.2 ⟨rfl, List.cons_ne_nil _ _, _,
    .cons rfl rfl <| .cons rfl tag <| .cons rfl rfl <| .cons rfl rfl <| .nil rfl,
    .opening <| .atom <| .closing (List.cons_ne_nil _ _) .done⟩

theorem cut_optionalTag : Cut optionalTagParts := by
  have name (c : Char) (h : isNameChar c = true) : IsName [c] := ⟨by simp, by simpa using h⟩
  have value : TagCut [['\'', 'b', '\''], ['>']] :=
    .value (.inl rfl) (.char (by decide) (by decide) .nil) .close
  have assigned : TagCut [['x'], ['='], ['\'', 'b', '\''], ['>']] :=
    .name (name 'x' (by decide)) (by rintro c ⟨⟩; decide) (.equals value)
  have tag : TagCut [['a'], [' '], ['x'], ['='], ['\'', 'b', '\''], ['>']] :=
    .name (name 'a' (by decide)) (by rintro c ⟨⟩; decide) (.space (by decide) assigned)
  exact .unbroken (.mark (by decide)) (.tag tag
    (.unbroken (.mark (by decide)) (.unbroken (.mark (by decide)) .nil)))

theorem spaced_optionalTag :
    Spaced optionalTagParts " ( < a   x = 'b' > ? ) ".toList := by
  have blank : Blank [' '] := by simp [Blank, isSpace]
  exact ⟨_, [' '], .cons blank <| .cons blank <| .cons blank <| .cons blank <| .cons blank <|
    .cons blank <| .cons blank <| .cons blank <| .cons blank <| .cons blank .nil, blank, rfl⟩

theorem compile_spaced_optionalTag :
    compile ⟨.atSpace, Expression.standard, none⟩ "(<a x='b'>?)"
        = .ok ⟨"(<a x='b'>?)", optionalTag⟩
      ∧ Cut optionalTagParts ∧ optionalTagParts.flatten = "(<a x='b'>?)".toList
      ∧ Spaced optionalTagParts " ( < a   x = 'b' > ? ) ".toList
      ∧ compile ⟨.atSpace, Expression.standard, none⟩ " ( < a   x = 'b' > ? ) "
        = .ok ⟨" ( < a   x = 'b' > ? ) ", optionalTag⟩ :=
  ⟨compile_optionalTag, cut_optionalTag, rfl, spaced_optionalTag,
    (compile_spaced compile_optionalTag).2 _ cut_optionalTag rfl _ spaced_optionalTag⟩

end SpanSearch.Pattern
