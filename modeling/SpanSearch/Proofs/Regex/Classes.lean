import SpanSearch.Proofs.Regex.Agreement

/-! # Classes that go on with a closing parenthesis

A class ends with a bracket, so what follows it is left alone. A class that is unfinished at the end of
a text takes the parenthesis.
-/

namespace SpanSearch.Regex

open Unicode

variable {cs cs' rest rest' : List Char} {c : Char} {spaced : Bool} {options : RegexOptions}
  {fuel fuel' : Nat}

/-! ## The start of a class -/

/-- What stands after a sign that negates may be read by itself. -/
theorem match_caret {α : Type} (cs : List Char) (after : List Char → List Char)
    (read : Bool × List Char → α) :
    read (match cs with
        | '^' :: rest => (true, after rest)
        | cs => (false, cs))
      = match cs with
        | '^' :: rest => read (true, after rest)
        | cs => read (false, cs) := by
  split <;> rfl

/-- What is read of an ASCII class after the sign that negates it. -/
def asciiClassAfter (negated : Bool) (cs : List Char) : Option ((CharSet × Bool) × List Char) :=
  let name := cs.takeWhile (· != ':')
  match cs.drop name.length with
  | ':' :: ']' :: rest => (asciiClass? (String.ofList name)).map fun set => ((set, negated), rest)
  | _ => none

theorem readAsciiClass_colon (cs : List Char) :
    readAsciiClass (':' :: cs)
      = match cs with
        | '^' :: rest => asciiClassAfter true rest
        | rest => asciiClassAfter false rest :=
  match_caret cs id fun found => asciiClassAfter found.1 found.2

theorem asciiClassAfter_eq_none {negated : Bool} (absent : ':' ∉ cs) :
    asciiClassAfter negated cs = none := by
  rw [asciiClassAfter, takeWhile_of_not_mem absent, List.drop_length]

theorem asciiClassAfter_closed {negated : Bool} {name : List Char} (absent : ':' ∉ name)
    (rest : List Char) :
    asciiClassAfter negated (name ++ ':' :: ']' :: rest)
      = (asciiClass? (String.ofList name)).map fun set => ((set, negated), rest) := by
  rw [asciiClassAfter, takeWhile_append_mark absent, List.drop_left]
  rfl

theorem asciiClassAfter_unclosed {negated : Bool} {name : List Char} (absent : ':' ∉ name)
    (unclosed : ∀ inner, rest ≠ ']' :: inner) :
    asciiClassAfter negated (name ++ ':' :: rest) = none := by
  rw [asciiClassAfter, takeWhile_append_mark absent, List.drop_left]
  split
  · next eq => exact absurd (List.cons.inj eq).2 (unclosed _)
  · rfl

theorem asciiClassAfter_append (negated : Bool) (cs : List Char) :
    asciiClassAfter negated (cs ++ ending)
      = (asciiClassAfter negated cs).map fun found => (found.1, found.2 ++ ending) := by
  by_cases mem : ':' ∈ cs
  · obtain ⟨name, rest, rfl, absent⟩ := List.eq_append_cons_of_mem mem
    rw [List.append_assoc, List.cons_append]
    by_cases bracket : ∃ inner, rest = ']' :: inner
    · obtain ⟨inner, rfl⟩ := bracket
      rw [List.cons_append, asciiClassAfter_closed absent, asciiClassAfter_closed absent,
        Option.map_map]
      rfl
    · have unclosed := not_exists.1 bracket
      have goesOn := (GoesOn.append rest).other unclosed (by decide)
      rw [asciiClassAfter_unclosed absent unclosed, asciiClassAfter_unclosed absent goesOn]
      rfl
  · have absent : ':' ∉ cs ++ ending := by simpa [ending] using mem
    rw [asciiClassAfter_eq_none absent, asciiClassAfter_eq_none mem]
    rfl

theorem readAsciiClass_plain (plain : ∀ rest, cs ≠ '^' :: rest) :
    readAsciiClass (':' :: cs) = asciiClassAfter false cs := by
  rw [readAsciiClass_colon]
  split
  · exact absurd rfl (plain _)
  · rfl

theorem readAsciiClass_other (other : ∀ rest, cs ≠ ':' :: rest) : readAsciiClass cs = none := by
  unfold readAsciiClass
  split
  · exact absurd rfl (other _)
  · rfl

theorem readAsciiClass_append (cs : List Char) :
    readAsciiClass (cs ++ ending)
      = (readAsciiClass cs).map fun found => (found.1, found.2 ++ ending) := by
  by_cases colon : ∃ rest, cs = ':' :: rest
  · obtain ⟨cs, rfl⟩ := colon
    rw [List.cons_append]
    by_cases caret : ∃ rest, cs = '^' :: rest
    · obtain ⟨cs, rfl⟩ := caret
      exact asciiClassAfter_append true cs
    · have plain := not_exists.1 caret
      rw [readAsciiClass_plain plain,
        readAsciiClass_plain ((GoesOn.append cs).other plain (by decide))]
      exact asciiClassAfter_append false cs
  · have other := not_exists.1 colon
    rw [readAsciiClass_other other,
      readAsciiClass_other ((GoesOn.append cs).other other (by decide))]
    rfl

theorem readAsciiClass_agrees (goesOn : GoesOn cs cs') :
    Agrees (fun _ _ => False) (readAsciiClass cs) (readAsciiClass cs') := by
  rcases goesOn with rfl | ⟨rfl, rfl⟩
  · rw [readAsciiClass_append]
    cases readAsciiClass cs with
    | none => exact .neither
    | some found => exact .both (.append found.2)
  · exact .neither

theorem hyphens_other (other : ∀ rest, cs ≠ '-' :: rest) (cls : OpenClass) :
    openClass.hyphens options fuel cls cs = (cls, cs) := by
  unfold openClass.hyphens
  split
  · exact absurd rfl (other _)
  · rfl

theorem hyphens_goesOn (options : RegexOptions) (goesOn : GoesOn cs cs') (cls : OpenClass)
    (enough : cs.length ≤ fuel) (enough' : cs'.length ≤ fuel') :
    ∃ opened rest rest', openClass.hyphens options fuel cls cs = (opened, rest)
      ∧ openClass.hyphens options fuel' cls cs' = (opened, rest') ∧ GoesOn rest rest' := by
  induction fuel generalizing cls cs cs' fuel' with
  | zero =>
    cases List.eq_nil_of_length_eq_zero (Nat.le_zero.1 enough)
    have other := goesOn.other (c := '-') nofun (by decide)
    exact ⟨cls, [], cs', rfl, hyphens_other other cls, goesOn⟩
  | succ fuel ih =>
    by_cases hyphen : ∃ rest, cs = '-' :: rest
    · obtain ⟨rest, rfl⟩ := hyphen
      obtain ⟨inner, rfl, after⟩ := goesOn.cons_left
      cases fuel' with
      | zero => cases enough'
      | succ fuel' =>
        have le := (skip_suffix options.spaced rest).length_le
        have le' := (skip_suffix options.spaced inner).length_le
        rw [List.length_cons] at enough enough'
        exact ih (after.skip options.spaced) _ (by omega) (by omega)
    · have other := not_exists.1 hyphen
      exact ⟨cls, cs, cs', hyphens_other other cls,
        hyphens_other (goesOn.other other (by decide)) cls, goesOn⟩

/-- Whether nothing more than what the text goes on with is left. -/
def Ended (rest : List Char) : Prop := rest.length ≤ ending.length

instance (rest : List Char) : Decidable (Ended rest) := Nat.decLe ..

/-- What is read of the start of a class after its hyphens. -/
def bracketAfter (options : RegexOptions) (cls : OpenClass) (cs : List Char) :
    Option (OpenClass × List Char) :=
  match cs with
  | [] => none
  | ']' :: rest =>
    if cls.count == 0 then
      match skip options.spaced rest with
      | [] => none
      | cs => some (cls.add (.singleton ']') 0, cs)
    else some (cls, cs)
  | cs => some (cls, cs)

/-- What is read of the start of a class after the sign that negates it. -/
def openClassAfter (options : RegexOptions) (negated : Bool) (cs : List Char) :
    Option (OpenClass × List Char) :=
  let (cls, cs) := openClass.hyphens options cs.length (.start negated) cs
  bracketAfter options cls cs

theorem openClass_eq (cs : List Char) :
    openClass options cs
      = match skip options.spaced cs with
        | '^' :: rest => openClassAfter options true (skip options.spaced rest)
        | cs => openClassAfter options false cs :=
  match_caret _ (skip options.spaced) fun found => openClassAfter options found.1 found.2

/-- What was read, if a character is left. -/
def unended {α : Type} (a : α) : List Char → Option (α × List Char)
  | [] => none
  | c :: rest => some (a, c :: rest)

theorem unended_agrees {α : Type} (a : α) (goesOn : GoesOn cs cs') :
    Agrees (fun _ => Ended) (unended a cs) (unended a cs') := by
  cases cs with
  | nil =>
    rcases goesOn.nil_left with rfl | rfl
    · exact .lost (by decide : Ended ending)
    · exact .neither
  | cons c cs =>
    obtain ⟨inner, rfl, -⟩ := goesOn.cons_left
    exact .both goesOn

theorem bracketAfter_bracket (cls : OpenClass) (rest : List Char) :
    bracketAfter options cls (']' :: rest)
      = if cls.count == 0 then unended (cls.add (.singleton ']') 0) (skip options.spaced rest)
        else some (cls, ']' :: rest) := by
  have eq (a : OpenClass) (cs : List Char) :
      (match cs with | [] => none | cs => some (a, cs)) = unended a cs := by
    cases cs <;> rfl
  rw [← eq]
  rfl

theorem bracketAfter_other (other : ∀ rest, cs ≠ ']' :: rest) (cls : OpenClass) :
    bracketAfter options cls cs = unended cls cs := by
  unfold bracketAfter
  split
  · rfl
  · exact absurd rfl (other _)
  · cases cs with
    | nil => exact absurd rfl ‹_›
    | cons c cs => rfl

theorem bracketAfter_agrees (cls : OpenClass) (goesOn : GoesOn cs cs') :
    Agrees (fun _ => Ended) (bracketAfter options cls cs) (bracketAfter options cls cs') := by
  by_cases bracket : ∃ rest, cs = ']' :: rest
  · obtain ⟨rest, rfl⟩ := bracket
    obtain ⟨inner, rfl, after⟩ := goesOn.cons_left
    rw [bracketAfter_bracket, bracketAfter_bracket]
    split
    · exact unended_agrees _ (after.skip options.spaced)
    · exact .both goesOn
  · have other := not_exists.1 bracket
    rw [bracketAfter_other other, bracketAfter_other (goesOn.other other (by decide))]
    exact unended_agrees cls goesOn

theorem openClassAfter_agrees (negated : Bool) (goesOn : GoesOn cs cs') :
    Agrees (fun _ => Ended) (openClassAfter options negated cs)
      (openClassAfter options negated cs') := by
  obtain ⟨cls, rest, rest', eq, eq', goesOn⟩ := hyphens_goesOn options goesOn
    (.start negated) (Nat.le_refl _) (Nat.le_refl _)
  unfold openClassAfter
  rw [eq, eq']
  exact bracketAfter_agrees cls goesOn

theorem openClass_agrees (goesOn : GoesOn cs cs') :
    Agrees (fun _ => Ended) (openClass options cs) (openClass options cs') := by
  have goesOn := goesOn.skip options.spaced
  rw [openClass_eq, openClass_eq]
  generalize skip options.spaced cs = ds at *
  generalize skip options.spaced cs' = ds' at *
  split
  · obtain ⟨inner, rfl, after⟩ := goesOn.cons_left
    exact openClassAfter_agrees true (after.skip options.spaced)
  · next other =>
    split
    · next rest => exact absurd rfl (goesOn.other other (by decide) rest)
    · exact openClassAfter_agrees false goesOn

theorem readItem_agrees (goesOn : GoesOn cs cs') :
    Agrees (EscapeLost options.spaced) (readItem options cs) (readItem options cs') := by
  cases cs with
  | nil =>
    rcases goesOn.nil_left with rfl | rfl
    · cases read : readItem options ending with
      | none => exact .neither
      | some found => exact .lost (.inl (short_of_suffix_tail (readItem_suffix read)))
    · exact .neither
  | cons c cs =>
    obtain ⟨inner, rfl, after⟩ := goesOn.cons_left
    by_cases backslash : c = '\\'
    · subst backslash
      exact readEscape_agrees after
    · rw [readItem, readItem]
      · exact .both after
      · exact backslash
      · exact backslash

theorem single_agrees (first : Symbol) (goesOn : GoesOn cs cs') :
    Agrees (fun _ => Ended) (single options first cs) (single options first cs') := by
  unfold single
  cases itemSet? options first with
  | none => exact .neither
  | some set => exact .both goesOn

theorem rangeTo_agrees (first : Symbol) (goesOn : GoesOn cs cs') :
    Agrees (fun _ => Ended) (rangeTo options first cs) (rangeTo options first cs') := by
  refine (readItem_agrees goesOn).bind ?_ ?_
  · intro second rest rest' goesOn
    dsimp only
    cases itemChar? options first with
    | none => exact .neither
    | some lo =>
      cases itemChar? options second with
      | none => exact .neither
      | some hi =>
        dsimp only [Option.bind_some]
        split
        · exact .both goesOn
        · exact .neither
  · rintro second rest set last gone read
    obtain ⟨lo, -, read⟩ := Option.bind_eq_some_iff.1 read
    obtain ⟨hi, isChar, read⟩ := Option.bind_eq_some_iff.1 read
    obtain ⟨-, ⟨⟩⟩ := Option.ite_none_right_eq_some.1 read
    rcases gone with short | ⟨⟨edge, rfl⟩, -⟩
    · exact Nat.le_of_lt short
    · cases isChar

theorem rangeHyphen_agrees (first : Symbol) {whole whole' : List Char} (all : GoesOn whole whole')
    (goesOn : GoesOn cs cs') :
    Agrees (fun _ => Ended) (rangeHyphen options first whole cs)
      (rangeHyphen options first whole' cs') := by
  rcases cs with _ | ⟨c, rest⟩
  · rcases goesOn.nil_left with rfl | rfl
    · have other : rangeHyphen options first whole' ending = rangeTo options first ending :=
        rangeHyphen_other nofun nofun nofun
      rw [other]
      cases read : rangeTo options first ending with
      | none => exact .neither
      | some found => exact .lost (Nat.le_of_lt (short_of_suffix_tail (rangeTo_suffix read)))
    · exact .neither
  obtain ⟨inner, rfl, -⟩ := goesOn.cons_left
  by_cases bracket : c = ']'
  · subst bracket
    exact single_agrees first all
  by_cases hyphen : c = '-'
  · subst hyphen
    exact single_agrees first all
  rw [rangeHyphen_other (List.cons_ne_nil _ _) (by simpa using bracket) (by simpa using hyphen),
    rangeHyphen_other (List.cons_ne_nil _ _) (by simpa using bracket) (by simpa using hyphen)]
  exact rangeTo_agrees first goesOn

theorem rangeAfter_agrees (first : Symbol) (goesOn : GoesOn cs cs') :
    Agrees (fun _ => Ended) (rangeAfter options first cs) (rangeAfter options first cs') := by
  rcases cs with _ | ⟨c, rest⟩
  · rcases goesOn.nil_left with rfl | rfl
    · have other : rangeAfter options first ending = single options first ending :=
        rangeAfter_other nofun nofun
      rw [other, single]
      cases itemSet? options first with
      | none => exact .neither
      | some set => exact .lost (by decide : Ended ending)
    · exact .neither
  obtain ⟨inner, rfl, after⟩ := goesOn.cons_left
  by_cases hyphen : c = '-'
  · subst hyphen
    exact rangeHyphen_agrees first goesOn (after.skip options.spaced)
  rw [rangeAfter_other (List.cons_ne_nil _ _) (by simpa using hyphen),
    rangeAfter_other (List.cons_ne_nil _ _) (by simpa using hyphen)]
  exact single_agrees first goesOn

/-- An edge of a word is no item of a class. -/
theorem rangeAfter_look (edge : Look) (cs : List Char) :
    rangeAfter options (.look edge) cs = none := by
  have unfinished (cs : List Char) : rangeTo options (.look edge) cs = none := by
    unfold rangeTo
    cases readItem options cs <;> rfl
  unfold rangeAfter rangeHyphen
  split
  · rfl
  · split
    · rfl
    · rfl
    · rfl
    · exact unfinished _
  · rfl

theorem readRange_agrees (goesOn : GoesOn cs cs') :
    Agrees (fun _ => Ended) (readRange options cs) (readRange options cs') := by
  rw [readRange_eq, readRange_eq]
  refine (readItem_agrees goesOn).bind ?_ ?_
  · intro first rest rest' goesOn
    exact rangeAfter_agrees first (goesOn.skip options.spaced)
  · rintro first rest set last (short | ⟨⟨edge, rfl⟩, braced⟩) read
    · have suffix := (rangeAfter_suffix read).trans (skip_suffix _ _)
      exact Nat.le_of_lt (short.of_suffix suffix)
    · rw [rangeAfter_look] at read
      cases read

/-- Where nothing more is left than what the text goes on with, the parenthesis is lost among the
items of a class. -/
theorem Ended.readItems {cls : OpenClass} {found : CharSet × Nat} (ended : Ended cs)
    (read : readItems options fuel cls cs = some (found, rest)) : Short rest := by
  obtain ⟨c, inner, eq, suffix⟩ := readItems_cons read
  have le := (skip_suffix options.spaced cs).length_le
  have le' := suffix.length_le
  rw [eq, List.length_cons] at le
  exact Nat.lt_of_le_of_lt le' (Nat.lt_of_lt_of_le le ended)

/-- What follows an item that is no operator and no class. -/
theorem readItems_other {cls : OpenClass} (eq : skip options.spaced cs = c :: rest)
    (closes : c ≠ ']') (opens : c ≠ '[')
    (plain : ∀ inner, rest = c :: inner → c ≠ '&' ∧ c ≠ '-' ∧ c ≠ '~') :
    readItems options (fuel + 1) cls cs
      = (readRange options (c :: rest)).bind fun found =>
          readItems options fuel (cls.add found.1 0) found.2 := by
  rw [readItems, eq]
  split
  · contradiction
  · next eq => exact absurd (List.cons.inj eq).1 closes
  · next eq =>
    cases eq
    exact absurd rfl (plain _ rfl).1
  · next eq =>
    cases eq
    exact absurd rfl (plain _ rfl).2.1
  · next eq =>
    cases eq
    exact absurd rfl (plain _ rfl).2.2
  · next eq => exact absurd (List.cons.inj eq).1 opens
  · rfl

/-- What is read of an item after its opening bracket. -/
def nested (options : RegexOptions) (fuel : Nat) (cs : List Char) :
    Option ((CharSet × Nat) × List Char) :=
  match readAsciiClass cs with
  | some found => (foldAndNegate options found.1.2 found.1.1).map fun set => ((set, 0), found.2)
  | none => (openClass options cs).bind fun opened => readItems options fuel opened.1 opened.2

theorem readItems_bracket {cls : OpenClass} (eq : skip options.spaced cs = '[' :: rest) :
    readItems options (fuel + 1) cls cs
      = (nested options fuel rest).bind fun found =>
          readItems options fuel (cls.add found.1.1 found.1.2) found.2 := by
  rw [readItems, eq]
  split
  · contradiction
  · next eq => exact absurd (List.cons.inj eq).1 (by decide)
  · next eq => exact absurd (List.cons.inj eq).1 (by decide)
  · next eq => exact absurd (List.cons.inj eq).1 (by decide)
  · next eq => exact absurd (List.cons.inj eq).1 (by decide)
  · next eq =>
    cases eq
    unfold nested
    cases readAsciiClass rest with
    | none => cases openClass options rest <;> rfl
    | some found => cases eq : foldAndNegate options found.1.2 found.1.1 <;> simp [eq]
  · next bracket => exact absurd rfl (bracket rest)

theorem nested_suffix {found : CharSet × Nat} (h : nested options fuel cs = some (found, rest)) :
    rest <:+ cs := by
  unfold nested at h
  split at h
  · next read =>
    obtain ⟨set, -, ⟨⟩⟩ := Option.map_eq_some_iff.1 h
    exact readAsciiClass_suffix read
  · obtain ⟨opened, read, h⟩ := Option.bind_eq_some_iff.1 h
    exact (readItems_suffix h).trans (openClass_suffix read)

/-- Whether what is read of the items of a class agrees, with so much fuel. -/
def ItemsAgree (options : RegexOptions) (fuel : Nat) : Prop :=
  ∀ {cs cs' : List Char} {fuel' : Nat} (cls : OpenClass), GoesOn cs cs' → cs.length < fuel →
    cs'.length < fuel' →
    Agrees (fun _ => Short) (readItems options fuel cls cs) (readItems options fuel' cls cs')

/-- Items agree after something else that agrees. -/
theorem ItemsAgree.after {α : Type} {x x' : Option (α × List Char)} (items : ItemsAgree options fuel)
    (agrees : Agrees (fun _ => Ended) x x') (next : α → OpenClass)
    (left : ∀ a rest, x = some (a, rest) → rest.length < fuel)
    (left' : ∀ a rest, x' = some (a, rest) → rest.length < fuel') :
    Agrees (fun _ => Short) (x.bind fun found => readItems options fuel (next found.1) found.2)
      (x'.bind fun found => readItems options fuel' (next found.1) found.2) := by
  refine agrees.bind_of_read ?_ ?_
  · intro a rest rest' read read' goesOn
    exact items _ goesOn (left a rest read) (left' a rest' read')
  · intro a rest found last ended read
    exact ended.readItems read

theorem ItemsAgree.nested (items : ItemsAgree options fuel) (goesOn : GoesOn cs cs')
    (enough : cs.length < fuel) (enough' : cs'.length < fuel') :
    Agrees (fun _ => Short) (nested options fuel cs) (nested options fuel' cs') := by
  have ascii := readAsciiClass_agrees goesOn
  unfold Regex.nested
  cases named : readAsciiClass cs with
  | some found =>
    rw [named] at ascii
    obtain ⟨behind, named', after⟩ := ascii.of_some
    rw [named']
    exact .found _ _ after
  | none =>
    rw [named] at ascii
    cases named' : readAsciiClass cs' with
    | some found' =>
      rw [named'] at ascii
      cases ascii with
      | lost gone => cases gone
    | none =>
      refine items.after (openClass_agrees goesOn) id ?_ ?_
      · intro opened rest read
        exact Nat.lt_of_le_of_lt (openClass_suffix read).length_le enough
      · intro opened rest read
        exact Nat.lt_of_le_of_lt (openClass_suffix read).length_le enough'

/-- A character is doubled just if it is doubled in the longer text, unless it is the parenthesis. -/
theorem GoesOn.not_doubled (goesOn : GoesOn cs cs')
    (plain : ∀ inner, cs = c :: inner → c ≠ '&' ∧ c ≠ '-' ∧ c ≠ '~') (inner : List Char)
    (doubled : cs' = c :: inner) : c ≠ '&' ∧ c ≠ '-' ∧ c ≠ '~' := by
  by_cases own : ∃ inner, cs = c :: inner
  · obtain ⟨inner, eq⟩ := own
    exact plain inner eq
  · by_cases closing : c = ')'
    · rw [closing]
      decide
    · exact absurd doubled (goesOn.other (not_exists.1 own) closing inner)

theorem itemsAgree (options : RegexOptions) (fuel : Nat) : ItemsAgree options fuel := by
  -- The induction is on the fuel for the text itself, since the fuel for the longer text is another.
  induction fuel with
  | zero => exact fun cls goesOn enough => absurd enough (Nat.not_lt_zero _)
  | succ fuel ih =>
    intro cs cs' fuel' cls goesOn enough enough'
    obtain ⟨fuel', rfl⟩ := Nat.exists_eq_succ_of_ne_zero (Nat.ne_of_gt (Nat.zero_lt_of_lt enough'))
    have goesOn := goesOn.skip options.spaced
    have le := (skip_suffix options.spaced cs).length_le
    have le' := (skip_suffix options.spaced cs').length_le
    cases eq : skip options.spaced cs with
    | nil =>
      rw [show readItems options (fuel + 1) cls cs = none by rw [readItems, eq]]
      cases read : readItems options (fuel' + 1) cls cs' with
      | none => exact .neither
      | some found =>
        obtain ⟨c, inner, eq', suffix⟩ := readItems_cons read
        rw [eq, eq'] at goesOn
        rcases goesOn.nil_left with ⟨⟨⟩⟩ | ⟨⟨⟩⟩
        exact .lost (short_of_suffix_tail suffix)
    | cons c rest =>
      rw [eq] at goesOn le
      obtain ⟨inner, eq', after⟩ := goesOn.cons_left
      rw [eq'] at goesOn le'
      rw [List.length_cons] at le le'
      have less : rest.length < fuel := by omega
      have less' : inner.length < fuel' := by omega
      by_cases closes : c = ']'
      · subst closes
        rw [readItems, readItems, eq, eq']
        exact .found _ _ after
      by_cases opens : c = '['
      · subst opens
        rw [readItems_bracket eq, readItems_bracket eq']
        have item := (ih.nested after less less').mono fun _ _ => Nat.le_of_lt
        refine ih.after item (fun found => cls.add found.1 found.2) ?_ ?_
        · intro found behind read
          exact Nat.lt_of_le_of_lt (nested_suffix read).length_le less
        · intro found behind read
          exact Nat.lt_of_le_of_lt (nested_suffix read).length_le less'
      by_cases operator : ∃ rest', rest = c :: rest' ∧ (c = '&' ∨ c = '-' ∨ c = '~')
      · obtain ⟨rest', rfl, op⟩ := operator
        obtain ⟨inner', rfl, behind⟩ := after.cons_left
        have next (op : ClassOp) := ih (cls.operator options op) behind
          (Nat.lt_of_succ_lt less) (Nat.lt_of_succ_lt less')
        rcases op with rfl | rfl | rfl
        · rw [readItems, readItems, eq, eq']
          exact next .inter
        · rw [readItems, readItems, eq, eq']
          exact next .diff
        · rw [readItems, readItems, eq, eq']
          exact next .symmDiff
      · have plain (rest' : List Char) (same : rest = c :: rest') : c ≠ '&' ∧ c ≠ '-' ∧ c ≠ '~' := by
          simpa [same] using not_exists.1 operator rest'
        rw [readItems_other eq closes opens plain,
          readItems_other eq' closes opens (after.not_doubled plain)]
        refine ih.after (readRange_agrees goesOn) (fun set => cls.add set 0) ?_ ?_
        · intro set behind read
          exact Nat.lt_of_le_of_lt (readRange_suffix read).length_le less
        · intro set behind read
          exact Nat.lt_of_le_of_lt (readRange_suffix read).length_le less'

theorem readClass_agrees (goesOn : GoesOn cs cs') :
    Agrees (fun _ => Short) (readClass options cs) (readClass options cs') := by
  refine (openClass_agrees goesOn).bind ?_ ?_
  · intro cls rest rest' goesOn
    exact itemsAgree options _ cls goesOn (Nat.lt_succ_self _) (Nat.lt_succ_self _)
  · intro cls rest found last ended read
    exact ended.readItems read

end SpanSearch.Regex
