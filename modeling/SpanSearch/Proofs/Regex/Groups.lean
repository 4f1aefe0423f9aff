import SpanSearch.Proofs.Regex.Classes

/-! # Groups and repetitions that go on with a closing parenthesis

Options that are unfinished at the end of a text are ended by the parenthesis, so that it is lost. The
names of groups and the counts of repetitions end with other characters, and cannot be finished so.
-/

namespace SpanSearch.Regex

open Unicode

variable {cs cs' rest rest' : List Char} {c : Char} {spaced : Bool} {options : RegexOptions}
  {fuel fuel' : Nat} {p : Progress}

/-! ## Groups -/

/-- What comes after a group's options: its inside, or what follows where there is none. -/
def afterOptions (p : Progress) (options : RegexOptions) (seen : List Char) :
    List Char → Option (Progress × List Char)
  | ')' :: rest =>
    if seen.isEmpty then none else some ({ p with options, entries := none :: p.entries }, rest)
  | _ :: rest => some (p.opened options, rest)
  | [] => none

/-- Enters a group with options, or changes the options. -/
def optionGroup (p : Progress) (cs : List Char) : Option (Progress × List Char) :=
  (readOptions p.options false [] cs).bind fun found => afterOptions p found.1 found.2.1 found.2.2

/-- Enters a group with a name. -/
def namedGroup (p : Progress) (cs : List Char) : Option (Progress × List Char) :=
  (readGroupName cs).bind fun found =>
    if p.names.contains found.1 then none
    else some ({ p.opened p.options with names := found.1 :: p.names }, found.2)

theorem openGroup_plain (eq : skip p.options.spaced cs = rest) (plain : ∀ inner, rest ≠ '?' :: inner) :
    openGroup p cs = some (p.opened p.options, rest) := by
  rw [openGroup, eq]
  split
  all_goals first | exact absurd rfl (plain _) | rfl

theorem openGroup_named (eq : skip p.options.spaced cs = '?' :: '<' :: rest)
    (equals : ∀ inner, rest ≠ '=' :: inner) (bang : ∀ inner, rest ≠ '!' :: inner) :
    openGroup p cs = namedGroup p rest := by
  rw [openGroup, eq]
  split
  · next eq => cases eq
  · next eq => cases eq
  · next eq =>
    cases eq
    exact absurd rfl (equals _)
  · next eq =>
    cases eq
    exact absurd rfl (bang _)
  · next eq => cases eq
  · next eq =>
    cases eq
    rfl
  · next named eq =>
    cases eq
    exact absurd rfl (named rest)
  · next other => exact absurd rfl (other _)

theorem openGroup_options (eq : skip p.options.spaced cs = '?' :: rest)
    (equals : ∀ inner, rest ≠ '=' :: inner) (bang : ∀ inner, rest ≠ '!' :: inner)
    (named : ∀ inner, rest ≠ '<' :: inner) (named' : ∀ inner, rest ≠ 'P' :: '<' :: inner) :
    openGroup p cs = optionGroup p rest := by
  rw [openGroup, eq]
  split
  · next eq =>
    cases eq
    exact absurd rfl (equals _)
  · next eq =>
    cases eq
    exact absurd rfl (bang _)
  · next eq =>
    cases eq
    exact absurd rfl (named _)
  · next eq =>
    cases eq
    exact absurd rfl (named _)
  · next eq =>
    cases eq
    exact absurd rfl (named' _)
  · next eq =>
    cases eq
    exact absurd rfl (named _)
  · next eq =>
    cases eq
    rfl
  · next other => exact absurd rfl (other _)

theorem readOptions_agrees (negating : Bool) (seen : List Char) (goesOn : GoesOn cs cs') :
    Agrees (fun _ => Ended)
      ((readOptions options negating seen cs).map fun found => ((found.1, found.2.1), found.2.2))
      ((readOptions options negating seen cs').map fun found =>
        ((found.1, found.2.1), found.2.2)) := by
  induction cs generalizing options negating seen cs' with
  | nil =>
    rcases goesOn.nil_left with rfl | rfl
    · cases read : readOptions options negating seen ending with
      | none => exact .neither
      | some found => exact .lost (readOptions_suffix read).length_le
    · exact .neither
  | cons c cs ih =>
    obtain ⟨inner, rfl, after⟩ := goesOn.cons_left
    rw [readOptions, readOptions]
    split
    · split
      · exact .neither
      · exact .both goesOn
    · split
      · exact .neither
      · split
        · exact ih _ _ after
        · cases setOption options c (!negating) with
          | none => exact .neither
          | some options => exact ih _ _ after

theorem afterOptions_suffix {seen : List Char} {q : Progress}
    (h : afterOptions p options seen cs = some (q, rest)) : rest <:+ cs.tail := by
  unfold afterOptions at h
  split at h
  · obtain ⟨-, ⟨⟩⟩ := Option.ite_none_left_eq_some.1 h
    exact List.suffix_rfl
  · cases h
    exact List.suffix_rfl
  · cases h

theorem afterOptions_closing (seen rest : List Char) :
    afterOptions p options seen (')' :: rest)
      = if seen.isEmpty then none else some ({ p with options, entries := none :: p.entries }, rest) :=
  rfl

theorem afterOptions_inside (inside : c ≠ ')') (seen rest : List Char) :
    afterOptions p options seen (c :: rest) = some (p.opened options, rest) := by
  unfold afterOptions
  split
  · next eq => exact absurd (List.cons.inj eq).1 inside
  · next eq =>
    cases eq
    rfl
  · next eq => cases eq

theorem afterOptions_agrees (seen : List Char) (goesOn : GoesOn cs cs') :
    Agrees (fun _ => Short) (afterOptions p options seen cs) (afterOptions p options seen cs') := by
  cases cs with
  | nil =>
    rcases goesOn.nil_left with rfl | rfl
    · cases read : afterOptions p options seen ending with
      | none => exact .neither
      | some found => exact .lost (short_of_suffix_tail (afterOptions_suffix read))
    · exact .neither
  | cons c cs =>
    obtain ⟨inner, rfl, after⟩ := goesOn.cons_left
    by_cases closing : c = ')'
    · subst closing
      rw [afterOptions_closing, afterOptions_closing]
      split
      · exact .neither
      · exact .both after
    · rw [afterOptions_inside closing, afterOptions_inside closing]
      exact .both after

theorem optionGroup_agrees (goesOn : GoesOn cs cs') :
    Agrees (fun _ => Short) (optionGroup p cs) (optionGroup p cs') := by
  have grouped (cs : List Char) : optionGroup p cs
      = ((readOptions p.options false [] cs).map fun found =>
          ((found.1, found.2.1), found.2.2)).bind fun found =>
            afterOptions p found.1.1 found.1.2 found.2 := by
    unfold optionGroup
    cases readOptions p.options false [] cs <;> rfl
  rw [grouped, grouped]
  refine (readOptions_agrees false [] goesOn).bind ?_ ?_
  · intro found rest rest' goesOn
    exact afterOptions_agrees found.2 goesOn
  · intro found rest q last ended read
    cases rest with
    | nil => cases read
    | cons c rest =>
      exact Nat.lt_of_le_of_lt (afterOptions_suffix read).length_le (Nat.lt_of_succ_le ended)

/-- A name that does not end is none. -/
theorem readGroupName_eq_none (absent : '>' ∉ cs) : readGroupName cs = none := by
  unfold readGroupName
  simp only [takeWhile_of_not_mem absent, List.drop_length]

/-- A name is read up to the first closing bracket. -/
theorem readGroupName_split {name : List Char} (absent : '>' ∉ name) :
    ∃ isName : Bool, ∀ rest, readGroupName (name ++ '>' :: rest)
      = if isName then some (name, rest) else none := by
  unfold readGroupName
  simp only [takeWhile_append_mark absent, List.drop_left]
  cases name with
  | nil => exact ⟨false, fun rest => rfl⟩
  | cons c more => exact ⟨_, fun rest => rfl⟩

theorem readGroupName_agrees (goesOn : GoesOn cs cs') :
    Agrees (fun _ _ => False) (readGroupName cs) (readGroupName cs') := by
  rcases goesOn with rfl | ⟨rfl, rfl⟩
  · by_cases mem : '>' ∈ cs
    · obtain ⟨name, rest, rfl, absent⟩ := List.eq_append_cons_of_mem mem
      obtain ⟨isName, read⟩ := readGroupName_split absent
      rw [List.append_assoc, List.cons_append, read, read]
      split
      · exact .both (.append rest)
      · exact .neither
    · rw [readGroupName_eq_none mem, readGroupName_eq_none (by simpa [ending] using mem)]
      exact .neither
  · exact .neither

theorem namedGroup_agrees (goesOn : GoesOn cs cs') :
    Agrees (fun _ => Short) (namedGroup p cs) (namedGroup p cs') := by
  refine (readGroupName_agrees goesOn).bind ?_ fun _ _ _ _ gone => gone.elim
  intro name rest rest' goesOn
  dsimp only
  split
  · exact .neither
  · exact .both goesOn

theorem openGroup_agrees (goesOn : GoesOn cs cs') :
    Agrees (fun _ => Short) (openGroup p cs) (openGroup p cs') := by
  have goesOn := goesOn.skip p.options.spaced
  by_cases question : ∃ rest, skip p.options.spaced cs = '?' :: rest
  · obtain ⟨rest, eq⟩ := question
    rw [eq] at goesOn
    obtain ⟨inner, eq', after⟩ := goesOn.cons_left
    by_cases look : ∃ d rest', rest = d :: rest' ∧ (d = '=' ∨ d = '!')
    · obtain ⟨d, rest', rfl, isLook⟩ := look
      obtain ⟨inner', rfl, -⟩ := after.cons_left
      rw [openGroup, openGroup, eq, eq']
      rcases isLook with rfl | rfl
      · exact .neither
      · exact .neither
    have equals (rest' : List Char) : rest ≠ '=' :: rest' := fun same =>
      look ⟨'=', rest', same, .inl rfl⟩
    have bang (rest' : List Char) : rest ≠ '!' :: rest' := fun same =>
      look ⟨'!', rest', same, .inr rfl⟩
    by_cases angle : ∃ rest', rest = '<' :: rest'
    · obtain ⟨rest', rfl⟩ := angle
      obtain ⟨inner', rfl, behind⟩ := after.cons_left
      by_cases lookBehind : ∃ d rest'', rest' = d :: rest'' ∧ (d = '=' ∨ d = '!')
      · obtain ⟨d, rest'', rfl, isLook⟩ := lookBehind
        obtain ⟨inner'', rfl, -⟩ := behind.cons_left
        rw [openGroup, openGroup, eq, eq']
        rcases isLook with rfl | rfl
        · exact .neither
        · exact .neither
      have equals (rest'' : List Char) : rest' ≠ '=' :: rest'' := fun same =>
        lookBehind ⟨'=', rest'', same, .inl rfl⟩
      have bang (rest'' : List Char) : rest' ≠ '!' :: rest'' := fun same =>
        lookBehind ⟨'!', rest'', same, .inr rfl⟩
      rw [openGroup_named eq equals bang, openGroup_named eq' (behind.other equals (by decide))
        (behind.other bang (by decide))]
      exact namedGroup_agrees behind
    by_cases letter : ∃ rest', rest = 'P' :: '<' :: rest'
    · obtain ⟨rest', rfl⟩ := letter
      obtain ⟨_, rfl, bracket⟩ := after.cons_left
      obtain ⟨inner', rfl, behind⟩ := bracket.cons_left
      rw [openGroup, openGroup, eq, eq']
      exact namedGroup_agrees behind
    have angle := not_exists.1 angle
    have letter := not_exists.1 letter
    have letter' (inner' : List Char) : inner ≠ 'P' :: '<' :: inner' := by
      rintro rfl
      cases rest with
      | nil => rcases after.nil_left with same | same <;> cases same
      | cons d rest =>
        obtain ⟨_, same, behind⟩ := after.cons_left
        cases same
        refine behind.other (fun rest' same => letter rest' ?_) (by decide) inner' rfl
        rw [same]
    rw [openGroup_options eq equals bang angle letter,
      openGroup_options eq' (after.other equals (by decide)) (after.other bang (by decide))
        (after.other angle (by decide)) letter']
    exact optionGroup_agrees after
  · have plain := not_exists.1 question
    rw [openGroup_plain rfl plain, openGroup_plain rfl (goesOn.other plain (by decide))]
    exact .both goesOn

/-! ## Repetitions -/

theorem head_of_nil_left (goesOn : GoesOn [] cs') (mem : c ∈ cs'.head?) : c = ')' := by
  rcases goesOn.nil_left with rfl | rfl
  · exact (Option.mem_some_iff.1 mem).symm
  · cases mem

theorem digits_other (other : ∀ c ∈ cs.head?, Number.isDigit c = false) :
    readCount.digits spaced fuel cs = ([], cs) := by
  unfold readCount.digits
  split
  · next c rest => rw [if_neg (by simp [other c rfl])]
  · rfl

theorem digits_goesOn (spaced : Bool) (goesOn : GoesOn cs cs') (enough : cs.length ≤ fuel)
    (enough' : cs'.length ≤ fuel') :
    ∃ ds rest rest', readCount.digits spaced fuel cs = (ds, rest)
      ∧ readCount.digits spaced fuel' cs' = (ds, rest') ∧ GoesOn rest rest' := by
  induction fuel generalizing cs cs' fuel' with
  | zero =>
    cases List.eq_nil_of_length_eq_zero (Nat.le_zero.1 enough)
    refine ⟨[], [], cs', rfl, digits_other fun c mem => ?_, goesOn⟩
    rw [head_of_nil_left goesOn mem]
    rfl
  | succ fuel ih =>
    cases cs with
    | nil =>
      refine ⟨[], [], cs', rfl, digits_other fun c mem => ?_, goesOn⟩
      rw [head_of_nil_left goesOn mem]
      rfl
    | cons c cs =>
      obtain ⟨inner, rfl, after⟩ := goesOn.cons_left
      by_cases digit : Number.isDigit c = true
      · obtain ⟨fuel', rfl⟩ := Nat.exists_eq_succ_of_ne_zero
          (Nat.ne_of_gt (Nat.lt_of_lt_of_le (Nat.succ_pos _) enough'))
        have le := (skip_suffix spaced cs).length_le
        have le' := (skip_suffix spaced inner).length_le
        rw [List.length_cons] at enough enough'
        obtain ⟨ds, rest, rest', eq, eq', goesOn⟩ := ih (after.skip spaced)
          (by omega) (show _ ≤ fuel' by omega)
        refine ⟨c :: ds, rest, rest', ?_, ?_, goesOn⟩
        · rw [readCount.digits, if_pos digit, eq]
        · rw [readCount.digits, if_pos digit, eq']
      · have other : ∀ d ∈ some c, Number.isDigit d = false := by simpa using digit
        exact ⟨[], _, _, digits_other other, digits_other other, goesOn⟩

theorem blanks_other (cs : List Char) (other : ∀ c ∈ cs.head?, isSpace c = false) :
    readCount.blanks spaced fuel cs = cs := by
  unfold readCount.blanks
  split
  · next c rest => rw [if_neg (by simp [other c rfl])]
  · rfl

theorem blanks_goesOn (goesOn : GoesOn cs cs') (enough : cs.length ≤ fuel)
    (enough' : cs'.length ≤ fuel') :
    GoesOn (readCount.blanks spaced fuel cs) (readCount.blanks spaced fuel' cs') := by
  induction fuel generalizing cs cs' fuel' with
  | zero =>
    cases List.eq_nil_of_length_eq_zero (Nat.le_zero.1 enough)
    rw [blanks_other [] nofun, blanks_other cs' fun c mem => ?_]
    · exact goesOn
    · rw [head_of_nil_left goesOn mem]
      decide
  | succ fuel ih =>
    cases cs with
    | nil =>
      rw [blanks_other [] nofun, blanks_other cs' fun c mem => ?_]
      · exact goesOn
      · rw [head_of_nil_left goesOn mem]
        decide
    | cons c cs =>
      obtain ⟨inner, rfl, after⟩ := goesOn.cons_left
      by_cases space : isSpace c = true
      · obtain ⟨fuel', rfl⟩ := Nat.exists_eq_succ_of_ne_zero
          (Nat.ne_of_gt (Nat.lt_of_lt_of_le (Nat.succ_pos _) enough'))
        have le := (skip_suffix spaced cs).length_le
        have le' := (skip_suffix spaced inner).length_le
        rw [List.length_cons] at enough enough'
        rw [readCount.blanks, readCount.blanks, if_pos space, if_pos space]
        exact ih (after.skip spaced) (by omega) (by omega)
      · have other : ∀ d ∈ some c, isSpace d = false := by simpa using space
        rw [blanks_other (c :: cs) other, blanks_other (c :: inner) other]
        exact goesOn

theorem GoesOn.dropSpace (goesOn : GoesOn cs cs') :
    GoesOn (cs.dropWhile isSpace) (cs'.dropWhile isSpace) := by
  induction cs generalizing cs' with
  | nil =>
    rcases goesOn.nil_left with rfl | rfl
    · exact .inl (by decide)
    · exact .nil
  | cons c cs ih =>
    obtain ⟨inner, rfl, after⟩ := goesOn.cons_left
    rw [List.dropWhile_cons, List.dropWhile_cons]
    split
    · exact ih after
    · exact goesOn

/-- The count that digits write, if they write one that is not too great. -/
def countOf (ds : List Char) : Option Nat :=
  if ds.isEmpty || Nat.pow 2 32 ≤ Number.ofDigits ds then none else some (Number.ofDigits ds)

theorem readCount_eq {ds : List Char}
    (eq : readCount.digits spaced cs.length (cs.dropWhile isSpace) = (ds, rest)) :
    readCount spaced cs = (countOf ds, readCount.blanks spaced rest.length rest) := by
  rw [readCount, eq]
  rfl

theorem readCount_goesOn (spaced : Bool) (goesOn : GoesOn cs cs') :
    ∃ n rest rest', readCount spaced cs = (n, rest) ∧ readCount spaced cs' = (n, rest')
      ∧ GoesOn rest rest' := by
  obtain ⟨ds, rest, rest', eq, eq', goesOn⟩ := digits_goesOn spaced goesOn.dropSpace
    (List.dropWhile_suffix _).length_le (List.dropWhile_suffix _).length_le
  exact ⟨_, _, _, readCount_eq eq, readCount_eq eq',
    blanks_goesOn goesOn (Nat.le_refl _) (Nat.le_refl _)⟩

theorem GoesOn.skipLazy (goesOn : GoesOn cs cs') : GoesOn (skipLazy cs) (skipLazy cs') := by
  rcases cs with _ | ⟨c, rest⟩
  · rcases goesOn.nil_left with rfl | rfl
    · exact goesOn
    · exact goesOn
  · obtain ⟨inner, rfl, after⟩ := goesOn.cons_left
    by_cases lazy : c = '?'
    · subst lazy
      exact after
    · rw [Regex.skipLazy, Regex.skipLazy]
      · exact goesOn
      · simpa using lazy
      · simpa using lazy

/-- What is read of the greater count, where `found` is the count and what follows it. -/
def greaterCount (spaced : Bool) (min : Nat) (found : Option Nat × List Char) :
    Option ((Nat × Option Nat) × List Char) :=
  match found with
  | (some max, '}' :: rest) =>
    if min ≤ max then some ((min, some max), skipLazy (skip spaced rest)) else none
  | _ => none

/-- What is read of counts after a comma. -/
def countsAfterComma (spaced : Bool) (min : Nat) (cs : List Char) :
    Option ((Nat × Option Nat) × List Char) :=
  match cs with
  | '}' :: rest => some ((min, none), skipLazy (skip spaced rest))
  | cs => greaterCount spaced min (readCount spaced cs)

/-- What is read of counts, where `found` is the first count and what follows it. -/
def countsAfter (spaced : Bool) (found : Option Nat × List Char) :
    Option ((Nat × Option Nat) × List Char) :=
  match found with
  | (some min, '}' :: rest) => some ((min, some min), skipLazy (skip spaced rest))
  | (some min, ',' :: rest) => countsAfterComma spaced min (skip spaced rest)
  | _ => none

theorem readCounts_cons (eq : skip spaced cs = c :: rest) :
    readCounts spaced cs = countsAfter spaced (readCount spaced (c :: rest)) := by
  rw [readCounts, eq]
  rfl

theorem greaterCount_other {min : Nat} (n : Option Nat) (other : ∀ inner, cs ≠ '}' :: inner) :
    greaterCount spaced min (n, cs) = none := by
  unfold greaterCount
  split
  · next eq => exact absurd (Prod.mk.inj eq).2 (other _)
  · rfl

theorem countsAfterComma_other {min : Nat} (other : ∀ inner, cs ≠ '}' :: inner) :
    countsAfterComma spaced min cs = greaterCount spaced min (readCount spaced cs) := by
  unfold countsAfterComma
  split
  · exact absurd rfl (other _)
  · rfl

theorem countsAfter_other (n : Option Nat) (brace : ∀ inner, cs ≠ '}' :: inner)
    (comma : ∀ inner, cs ≠ ',' :: inner) : countsAfter spaced (n, cs) = none := by
  unfold countsAfter
  split
  · next eq => exact absurd (Prod.mk.inj eq).2 (brace _)
  · next eq => exact absurd (Prod.mk.inj eq).2 (comma _)
  · rfl

theorem greaterCount_agrees (min : Nat) (n : Option Nat) (goesOn : GoesOn cs cs') :
    Agrees (fun _ _ => False) (greaterCount spaced min (n, cs))
      (greaterCount spaced min (n, cs')) := by
  by_cases brace : ∃ rest, cs = '}' :: rest
  · obtain ⟨rest, rfl⟩ := brace
    obtain ⟨inner, rfl, after⟩ := goesOn.cons_left
    cases n with
    | none => exact .neither
    | some max =>
      change Agrees _ (if min ≤ max then _ else _) (if min ≤ max then _ else _)
      split
      · exact .both (after.skip spaced).skipLazy
      · exact .neither
  · have other := not_exists.1 brace
    rw [greaterCount_other n other, greaterCount_other n (goesOn.other other (by decide))]
    exact .neither

theorem countsAfterComma_agrees (min : Nat) (goesOn : GoesOn cs cs') :
    Agrees (fun _ _ => False) (countsAfterComma spaced min cs)
      (countsAfterComma spaced min cs') := by
  by_cases brace : ∃ rest, cs = '}' :: rest
  · obtain ⟨rest, rfl⟩ := brace
    obtain ⟨inner, rfl, after⟩ := goesOn.cons_left
    exact .both (after.skip spaced).skipLazy
  · have other := not_exists.1 brace
    obtain ⟨n, behind, behind', read, read', after⟩ := readCount_goesOn spaced goesOn
    rw [countsAfterComma_other other, countsAfterComma_other (goesOn.other other (by decide)),
      read, read']
    exact greaterCount_agrees min n after

theorem countsAfter_agrees (n : Option Nat) (goesOn : GoesOn cs cs') :
    Agrees (fun _ _ => False) (countsAfter spaced (n, cs)) (countsAfter spaced (n, cs')) := by
  by_cases brace : ∃ rest, cs = '}' :: rest
  · obtain ⟨rest, rfl⟩ := brace
    obtain ⟨inner, rfl, after⟩ := goesOn.cons_left
    cases n with
    | none => exact .neither
    | some min => exact .both (after.skip spaced).skipLazy
  by_cases comma : ∃ rest, cs = ',' :: rest
  · obtain ⟨rest, rfl⟩ := comma
    obtain ⟨inner, rfl, after⟩ := goesOn.cons_left
    cases n with
    | none => exact .neither
    | some min => exact countsAfterComma_agrees min (after.skip spaced)
  have brace := not_exists.1 brace
  have comma := not_exists.1 comma
  rw [countsAfter_other n brace comma, countsAfter_other n (goesOn.other brace (by decide))
    (goesOn.other comma (by decide))]
  exact .neither

/-- No count comes right before the parenthesis. -/
theorem readCounts_ending (ends : skip spaced cs = ending) : readCounts spaced cs = none := by
  obtain ⟨n, rest, rest', read, read', goesOn⟩ := readCount_goesOn spaced (GoesOn.append [])
  cases List.suffix_nil.1 (readCount_suffix read)
  have brace := goesOn.other (c := '}') nofun (by decide)
  have comma := goesOn.other (c := ',') nofun (by decide)
  rw [readCounts_cons ends]
  exact (congrArg (countsAfter spaced) read').trans (countsAfter_other n brace comma)

theorem readCounts_agrees (goesOn : GoesOn cs cs') :
    Agrees (fun _ _ => False) (readCounts spaced cs) (readCounts spaced cs') := by
  have goesOn := goesOn.skip spaced
  cases eq : skip spaced cs with
  | nil =>
    have none : readCounts spaced cs = none := by rw [readCounts, eq]
    rw [eq] at goesOn
    rw [none]
    rcases goesOn.nil_left with ends | ends
    · rw [readCounts_ending ends]
      exact .neither
    · rw [readCounts, ends]
      exact .neither
  | cons c rest =>
    rw [eq] at goesOn
    obtain ⟨inner, eq', -⟩ := goesOn.cons_left
    rw [eq'] at goesOn
    obtain ⟨n, behind, behind', read, read', after⟩ := readCount_goesOn spaced goesOn
    rw [readCounts_cons eq, readCounts_cons eq', read, read']
    exact countsAfter_agrees n after

end SpanSearch.Regex
