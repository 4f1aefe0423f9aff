import Mathlib.Data.List.TakeWhile
import SpanSearch.Proofs.Regex.Remainders

/-! # Expressions that go on with a closing parenthesis

What is read from the front of a text is read from the longer text too that goes on with a closing
parenthesis and a dollar sign, and what is left goes on in the same way. There are two exceptions. A
comment at the end of the text takes what follows as well. And what is unfinished at the end of the
text may be finished by what follows, but then the parenthesis is lost.
-/

namespace SpanSearch.Regex

open Unicode

/-- What a text goes on with. -/
def ending : List Char := [')', '$']

/-- Whether what is left of a text goes on, or nothing is left because a comment takes all. -/
def GoesOn (cs cs' : List Char) : Prop := cs' = cs ++ ending ∨ cs = [] ∧ cs' = []

/-- Whether the parenthesis is not among what is left. -/
def Short (rest : List Char) : Prop := rest.length < ending.length

instance (rest : List Char) : Decidable (Short rest) := Nat.decLt ..

/-- Whether something was read from both a text and a longer one with the rests going on, or from
the longer one only, in which case something is lost. -/
inductive Agrees {α : Type} (lost : α → List Char → Prop) :
    Option (α × List Char) → Option (α × List Char) → Prop
  | neither : Agrees lost none none
  | both {a : α} {rest rest' : List Char} (goesOn : GoesOn rest rest') :
      Agrees lost (some (a, rest)) (some (a, rest'))
  | lost {a : α} {rest' : List Char} (gone : lost a rest') : Agrees lost none (some (a, rest'))

section

variable {α β : Type} {lost : α → List Char → Prop} {lost' : β → List Char → Prop}
  {x x' : Option (α × List Char)} {cs cs' rest rest' : List Char}

theorem GoesOn.append (cs : List Char) : GoesOn cs (cs ++ ending) := .inl rfl

theorem GoesOn.nil : GoesOn [] [] := .inr ⟨rfl, rfl⟩

/-- What follows the first character goes on as well. -/
theorem GoesOn.cons_left {c : Char} (goesOn : GoesOn (c :: cs) cs') :
    ∃ inner, cs' = c :: inner ∧ GoesOn cs inner := by
  rcases goesOn with rfl | ⟨⟨⟩, -⟩
  exact ⟨cs ++ ending, rfl, .inl rfl⟩

theorem GoesOn.nil_left (goesOn : GoesOn [] cs') : cs' = ending ∨ cs' = [] :=
  goesOn.imp id And.right

/-- A text starts with another character than the parenthesis just if the longer one does. -/
theorem GoesOn.other {c : Char} (goesOn : GoesOn cs cs') (other : ∀ inner, cs ≠ c :: inner)
    (notClosing : c ≠ ')') (inner : List Char) : cs' ≠ c :: inner := by
  cases cs with
  | nil =>
    rcases goesOn.nil_left with rfl | rfl
    · rintro ⟨⟩
      exact notClosing rfl
    · rintro ⟨⟩
  | cons d cs =>
    obtain ⟨inner', rfl, -⟩ := goesOn.cons_left
    rintro ⟨⟩
    exact other cs rfl

theorem Short.of_suffix (short : Short cs) (suffix : rest <:+ cs) : Short rest :=
  Nat.lt_of_le_of_lt suffix.length_le short

theorem short_of_suffix_tail (suffix : rest <:+ ending.tail) : Short rest :=
  Nat.lt_of_le_of_lt suffix.length_le (by decide)

/-- What is read from the text is read from the longer one. -/
theorem Agrees.of_some {a : α} (agrees : Agrees lost (some (a, rest)) x') :
    ∃ rest', x' = some (a, rest') ∧ GoesOn rest rest' := by
  cases agrees with
  | both goesOn => exact ⟨_, rfl, goesOn⟩

theorem Agrees.of_some_right {a : α} (agrees : Agrees lost x (some (a, rest'))) :
    (∃ rest, x = some (a, rest) ∧ GoesOn rest rest') ∨ x = none ∧ lost a rest' := by
  cases agrees with
  | both goesOn => exact .inl ⟨_, rfl, goesOn⟩
  | lost gone => exact .inr ⟨rfl, gone⟩

/-- What does not depend on the text agrees where it is left. -/
theorem Agrees.found (x : Option α) (f : α → β) (goesOn : GoesOn rest rest') :
    Agrees lost' (x.map fun a => (f a, rest)) (x.map fun a => (f a, rest')) := by
  cases x with
  | none => exact .neither
  | some a => exact .both goesOn

theorem Agrees.map (agrees : Agrees lost x x') (f : α → β)
    (gone : ∀ a rest', lost a rest' → lost' (f a) rest') :
    Agrees lost' (x.map fun found => (f found.1, found.2))
      (x'.map fun found => (f found.1, found.2)) := by
  cases agrees with
  | neither => exact .neither
  | both goesOn => exact .both goesOn
  | lost h => exact .lost (gone _ _ h)

/-- What is read after something else agrees if it agrees wherever that is left, and if nothing
makes up for what is lost. -/
theorem Agrees.bind_of_read (agrees : Agrees lost x x')
    {f f' : α × List Char → Option (β × List Char)}
    (next : ∀ a rest rest', x = some (a, rest) → x' = some (a, rest') → GoesOn rest rest' →
      Agrees lost' (f (a, rest)) (f' (a, rest')))
    (gone : ∀ a rest' b last, lost a rest' → f' (a, rest') = some (b, last) → lost' b last) :
    Agrees lost' (x.bind f) (x'.bind f') := by
  cases agrees with
  | neither => exact .neither
  | both goesOn => exact next _ _ _ rfl rfl goesOn
  | @lost a rest' h =>
    rw [Option.bind_none, Option.bind_some]
    cases read : f' (a, rest') with
    | none => exact .neither
    | some found => exact .lost (gone _ _ _ _ h read)

theorem Agrees.bind (agrees : Agrees lost x x')
    {f f' : α × List Char → Option (β × List Char)}
    (next : ∀ a rest rest', GoesOn rest rest' → Agrees lost' (f (a, rest)) (f' (a, rest')))
    (gone : ∀ a rest' b last, lost a rest' → f' (a, rest') = some (b, last) → lost' b last) :
    Agrees lost' (x.bind f) (x'.bind f') :=
  agrees.bind_of_read (fun a rest rest' _ _ => next a rest rest') gone

theorem Agrees.mono {lost' : α → List Char → Prop} (agrees : Agrees lost x x')
    (gone : ∀ a rest', lost a rest' → lost' a rest') : Agrees lost' x x' := by
  cases agrees with
  | neither => exact .neither
  | both goesOn => exact .both goesOn
  | lost h => exact .lost (gone _ _ h)

end

variable {cs cs' rest rest' : List Char} {c : Char} {spaced : Bool} {options : RegexOptions}
  {fuel fuel' : Nat}

/-! ## Marks -/

/-- Without a mark, all of a text comes before it. -/
theorem takeWhile_of_not_mem (absent : c ∉ cs) : cs.takeWhile (· != c) = cs := by
  refine List.takeWhile_eq_self_iff.2 fun d mem => ?_
  exact bne_iff_ne.2 fun same => absent (same ▸ mem)

theorem takeWhile_append_mark (absent : c ∉ cs) (rest : List Char) :
    (cs ++ c :: rest).takeWhile (· != c) = cs := by
  rw [List.takeWhile_append_of_pos, List.takeWhile_cons_of_neg (by simp), List.append_nil]
  exact fun d mem => bne_iff_ne.2 fun same => absent (same ▸ mem)

/-! ## Layout -/

theorem skipComment_goesOn (cs : List Char) :
    GoesOn (skipComment cs) (skipComment (cs ++ ending)) := by
  induction cs with
  | nil => exact .nil
  | cons c cs ih =>
    rw [List.cons_append, skipComment, skipComment]
    split
    · exact .append cs
    · exact ih

theorem GoesOn.skipComment (goesOn : GoesOn cs cs') :
    GoesOn (skipComment cs) (skipComment cs') := by
  rcases goesOn with rfl | ⟨rfl, rfl⟩
  · exact skipComment_goesOn cs
  · exact .nil

theorem skipLayout_ending : skip.skipLayout ending = ending := by
  have notBlank : isSpace ')' = false := by decide +kernel
  rw [ending, skipLayout_cons, notBlank, if_neg Bool.false_ne_true, if_neg (by decide)]

theorem skipLayout_goesOn (goesOn : GoesOn cs cs') :
    GoesOn (skip.skipLayout cs) (skip.skipLayout cs') := by
  fun_induction skip.skipLayout cs generalizing cs' with
  | case1 =>
    rcases goesOn.nil_left with rfl | rfl
    · rw [skipLayout_ending]
      exact .append []
    · rw [skipLayout_nil]
      exact .nil
  | case2 c cs blank ih =>
    obtain ⟨inner, rfl, after⟩ := goesOn.cons_left
    rw [skipLayout_cons, if_pos blank]
    exact ih after
  | case3 c cs notBlank comment ih =>
    obtain ⟨inner, rfl, after⟩ := goesOn.cons_left
    rw [skipLayout_cons, if_neg notBlank, if_pos comment]
    exact ih after.skipComment
  | case4 c cs notBlank notComment =>
    obtain ⟨inner, rfl, -⟩ := goesOn.cons_left
    rw [skipLayout_cons, if_neg notBlank, if_neg notComment]
    exact goesOn

theorem GoesOn.skip (goesOn : GoesOn cs cs') (spaced : Bool) :
    GoesOn (skip spaced cs) (skip spaced cs') := by
  cases spaced with
  | false => exact goesOn
  | true => exact skipLayout_goesOn goesOn

theorem skip_ending (spaced : Bool) : Regex.skip spaced ending = ending := by
  cases spaced with
  | false => rfl
  | true => exact skipLayout_ending

/-! ## Escapes -/

theorem readHexDigits_agrees (count : Nat) (goesOn : GoesOn cs cs') :
    Agrees (fun _ => Short) (readHexDigits spaced count cs) (readHexDigits spaced count cs') := by
  induction count generalizing cs cs' with
  | zero => exact .both goesOn
  | succ count ih =>
    cases cs with
    | nil =>
      rcases goesOn.nil_left with rfl | rfl
      · exact .neither
      · exact .neither
    | cons c cs =>
      obtain ⟨inner, rfl, after⟩ := goesOn.cons_left
      rw [readHexDigits, readHexDigits]
      split
      · exact .neither
      · exact (ih (after.skip spaced)).map (c :: ·) fun _ _ short => short

theorem readBraced_agrees (goesOn : GoesOn cs cs') (enough : cs.length < fuel)
    (enough' : cs'.length < fuel') :
    Agrees (fun _ => Short) (readBraced spaced fuel cs) (readBraced spaced fuel' cs') := by
  induction fuel generalizing cs cs' fuel' with
  | zero => cases enough
  | succ fuel ih =>
    obtain ⟨fuel', rfl⟩ := Nat.exists_eq_succ_of_ne_zero (Nat.ne_of_gt (Nat.zero_lt_of_lt enough'))
    have goesOn := goesOn.skip spaced
    have le := (skip_suffix spaced cs).length_le
    have le' := (skip_suffix spaced cs').length_le
    rw [readBraced, readBraced]
    generalize skip spaced cs = ds at *
    generalize skip spaced cs' = ds' at *
    cases ds with
    | nil =>
      rcases goesOn.nil_left with rfl | rfl
      · rw [ending]
        dsimp only
        rw [if_neg (by decide)]
        cases read : readBraced spaced fuel' ['$'] with
        | none => exact .neither
        | some found => exact .lost (short_of_suffix_tail (readBraced_suffix read))
      · exact .neither
    | cons c ds =>
      obtain ⟨inner, rfl, after⟩ := goesOn.cons_left
      dsimp only
      split
      · exact .both after
      · rw [List.length_cons] at le le'
        exact (ih after (by omega) (by omega)).map (c :: ·) fun _ _ short => short

theorem readHex_agrees (kind : Char) (goesOn : GoesOn cs cs') :
    Agrees (fun _ => Short) (readHex spaced kind cs) (readHex spaced kind cs') := by
  have goesOn := goesOn.skip spaced
  have counted {ds ds' : List Char} (goesOn : GoesOn ds ds') (count : Nat) :
      Agrees (fun _ => Short)
        ((readHexDigits spaced count ds).bind fun found =>
          (hexChar? found.1).bind fun c => some (Symbol.char c (kind == 'x'), found.2))
        ((readHexDigits spaced count ds').bind fun found =>
          (hexChar? found.1).bind fun c => some (Symbol.char c (kind == 'x'), found.2)) := by
    refine (readHexDigits_agrees count goesOn).bind ?_ ?_
    · intro digits rest rest' goesOn
      cases hexChar? digits with
      | none => exact .neither
      | some c => exact .both goesOn
    · intro digits rest symbol last short read
      obtain ⟨c, -, ⟨⟩⟩ := Option.bind_eq_some_iff.1 read
      exact short
  dsimp only [readHex]
  generalize skip spaced cs = ds at *
  generalize skip spaced cs' = ds' at *
  generalize (if kind == 'x' then 2 else if kind == 'u' then 4 else 8) = count
  split
  · next rest =>
    obtain ⟨inner, rfl, after⟩ := goesOn.cons_left
    refine (readBraced_agrees after (Nat.lt_succ_self _) (Nat.lt_succ_self _)).bind ?_ ?_
    · intro digits rest rest' goesOn
      dsimp only
      split
      · exact .neither
      · cases hexChar? digits with
        | none => exact .neither
        | some c => exact .both goesOn
    · intro digits rest symbol last short read
      obtain ⟨-, read⟩ := Option.ite_none_left_eq_some.1 read
      obtain ⟨c, -, ⟨⟩⟩ := Option.bind_eq_some_iff.1 read
      exact short
  · next other =>
    split
    · next rest => exact absurd rfl (goesOn.other other (by decide) rest)
    · exact counted goesOn count

/-- The name of a class. -/
def className (options : RegexOptions) (cs : List Char) : Option (List Char × List Char) :=
  match skip options.spaced cs with
  | [] => none
  | '{' :: rest => readBraced options.spaced (rest.length + 1) rest
  | c :: rest => if c == '\\' then none else some ([c], rest)

/-- What the name of a class stands for. -/
def classSymbol? (options : RegexOptions) (negated : Bool) (name : List Char) : Option Symbol :=
  if !options.wide then none
  else ((classOfName? name).bind (foldAndNegate options negated)).map .set

theorem readClassName_eq (negated : Bool) (cs : List Char) :
    readClassName options negated cs = (className options cs).bind fun found =>
      (classSymbol? options negated found.1).map fun symbol => (symbol, found.2) := by
  have read (f : List Char × List Char → Option (Symbol × List Char)) :
      (match skip options.spaced cs with
        | [] => Option.none.bind f
        | '{' :: rest => (readBraced options.spaced (rest.length + 1) rest).bind f
        | c :: rest => if c == '\\' then Option.none.bind f else (some ([c], rest)).bind f)
      = (className options cs).bind f := by
    unfold className
    split
    · rfl
    · rfl
    · split <;> rfl
  refine (read _).trans (Option.bind_congr fun found _ => ?_)
  dsimp only [classSymbol?]
  split
  · rfl
  · cases classOfName? found.1 with
    | none => rfl
    | some set =>
      dsimp only [bind, Option.bind_some]
      cases foldAndNegate options negated set <;> rfl

theorem className_agrees (goesOn : GoesOn cs cs') :
    Agrees (fun _ => Short) (className options cs) (className options cs') := by
  have goesOn := goesOn.skip options.spaced
  unfold className
  generalize skip options.spaced cs = ds at *
  generalize skip options.spaced cs' = ds' at *
  split
  · rcases goesOn.nil_left with rfl | rfl
    · exact .lost (by decide : Short ['$'])
    · exact .neither
  · obtain ⟨inner, rfl, after⟩ := goesOn.cons_left
    exact readBraced_agrees after (Nat.lt_succ_self _) (Nat.lt_succ_self _)
  · next c rest notBrace =>
    obtain ⟨inner, rfl, after⟩ := goesOn.cons_left
    by_cases backslash : c = '\\'
    · rw [backslash]
      exact .neither
    · rw [if_neg (by simpa using backslash)]
      split
      · next eq => cases eq
      · next eq => exact absurd (List.cons.inj eq).1 notBrace
      · next eq =>
        cases eq
        rw [if_neg (by simpa using backslash)]
        exact .both after

theorem readClassName_agrees (negated : Bool) (goesOn : GoesOn cs cs') :
    Agrees (fun _ => Short) (readClassName options negated cs)
      (readClassName options negated cs') := by
  rw [readClassName_eq, readClassName_eq]
  refine (className_agrees goesOn).bind ?_ ?_
  · intro name rest rest' goesOn
    exact .found _ id goesOn
  · intro name rest symbol last short read
    obtain ⟨symbol, -, ⟨⟩⟩ := Option.map_eq_some_iff.1 read
    exact short

/-- Whether a brace is left after which nothing but layout comes before the parenthesis. -/
def Braced (spaced : Bool) (rest : List Char) : Prop :=
  ∃ inner, rest = '{' :: inner ∧ skip spaced inner = ending

/-- The special edge of words that a name stands for. -/
def edgeOfName? (options : RegexOptions) (name : List Char) : Option Look :=
  match String.ofList name with
  | "start" => some (.wordStart options.wide)
  | "end" => some (.wordStop options.wide)
  | "start-half" => some (.noWordBefore options.wide)
  | "end-half" => some (.noWordAfter options.wide)
  | _ => none

theorem readEdge_brace (inner : List Char) :
    readEdge options ('{' :: inner)
      = match skip options.spaced inner with
        | [] => none
        | c :: rest =>
          if !(c.isAlpha || c == '-') then some (.wordEdge options.wide, '{' :: inner)
          else (readBraced options.spaced (rest.length + 2) (c :: rest)).bind fun found =>
            (edgeOfName? options found.1).map fun edge => (edge, found.2) := by
  have named (name rest : List Char) :
      (match String.ofList name with
        | "start" => some (.wordStart options.wide, rest)
        | "end" => some (.wordStop options.wide, rest)
        | "start-half" => some (.noWordBefore options.wide, rest)
        | "end-half" => some (.noWordAfter options.wide, rest)
        | _ => none)
      = (edgeOfName? options name).map fun edge => (edge, rest) := by
    unfold edgeOfName?
    split <;> rfl
  simp only [← named]
  rfl

theorem readEdge_agrees (goesOn : GoesOn cs cs') :
    Agrees (fun _ rest => Short rest ∨ Braced options.spaced rest) (readEdge options cs)
      (readEdge options cs') := by
  by_cases brace : ∃ rest, cs = '{' :: rest
  · obtain ⟨rest, rfl⟩ := brace
    obtain ⟨inner, rfl, after⟩ := goesOn.cons_left
    have skipped := after.skip options.spaced
    rw [readEdge_brace, readEdge_brace]
    cases eq : skip options.spaced rest with
    | nil =>
      rw [eq] at skipped
      rcases skipped.nil_left with eq' | eq'
      · rw [eq', ending]
        exact .lost (.inr ⟨inner, rfl, eq'⟩)
      · rw [eq']
        exact .neither
    | cons c inner' =>
      rw [eq] at skipped
      obtain ⟨inner'', eq', behind⟩ := skipped.cons_left
      rw [eq'] at skipped ⊢
      dsimp only
      split
      · exact .both goesOn
      · refine (readBraced_agrees skipped (Nat.lt_succ_self _) (Nat.lt_succ_self _)).bind ?_ ?_
        · intro name rest rest' goesOn
          exact .found _ id goesOn
        · intro name rest edge last short read
          obtain ⟨edge, -, ⟨⟩⟩ := Option.map_eq_some_iff.1 read
          exact .inl short
  · have other := goesOn.other (not_exists.1 brace) (by decide)
    unfold readEdge
    split
    · exact absurd ⟨_, rfl⟩ brace
    · exact .both goesOn

/-- Whether what was lost when an escape was read is the parenthesis, or an edge of a word has been
read that ends before a brace. -/
def EscapeLost (spaced : Bool) (symbol : Symbol) (rest : List Char) : Prop :=
  Short rest ∨ (∃ edge, symbol = .look edge) ∧ Braced spaced rest

theorem readEscape_agrees (goesOn : GoesOn cs cs') :
    Agrees (EscapeLost options.spaced) (readEscape options cs) (readEscape options cs') := by
  cases cs with
  | nil =>
    rcases goesOn.nil_left with rfl | rfl
    · cases read : readEscape options ending with
      | none => exact .neither
      | some found => exact .lost (.inl (short_of_suffix_tail (readEscape_suffix read)))
    · exact .neither
  | cons c cs =>
    obtain ⟨inner, rfl, after⟩ := goesOn.cons_left
    have hex (kind : Char) : Agrees (EscapeLost options.spaced) (readHex options.spaced kind cs)
        (readHex options.spaced kind inner) :=
      (readHex_agrees kind after).mono fun _ _ => .inl
    have className (negated : Bool) : Agrees (EscapeLost options.spaced)
        (readClassName options negated cs) (readClassName options negated inner) :=
      (readClassName_agrees negated after).mono fun _ _ => .inl
    by_cases isHex : c = 'x' ∨ c = 'u' ∨ c = 'U'
    · rcases isHex with rfl | rfl | rfl
      · exact hex 'x'
      · exact hex 'u'
      · exact hex 'U'
    by_cases isClass : c = 'p' ∨ c = 'P'
    · rcases isClass with rfl | rfl
      · exact className false
      · exact className true
    by_cases isEdge : c = 'b'
    · subst isEdge
      exact (readEdge_agrees after).map Symbol.look fun edge rest gone =>
        gone.imp id fun braced => ⟨⟨edge, rfl⟩, braced⟩
    have plain := readEscape_plain options (by simpa [and_assoc] using isHex)
      (by simpa using isClass) isEdge
    rw [plain cs, plain inner]
    cases (readEscape options [c]).map (·.1) with
    | none => exact .neither
    | some symbol => exact .both after

end SpanSearch.Regex
