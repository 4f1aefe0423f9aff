import SpanSearch.Pattern.Quoted

/-! # Text between quotes

What is read between quotes is the meaning of a text in which no quote stands by itself. In the
strict form any text can be written between quotes. In the other form that is possible just for texts
in which no backslash stands before a quote or at the end, once those before other characters are
paired off.
-/

namespace SpanSearch.Quoted

/-- Whether a text may stand between quotes: it is made of pairs of a backslash and a character, and
of other characters, of which none is the quote. -/
inductive Inside (quote : Char) : List Char → Prop
  | nil : Inside quote []
  | pair {c : Char} {rest : List Char} (others : Inside quote rest) : Inside quote ('\\' :: c :: rest)
  | char {c : Char} {rest : List Char} (plain : c ≠ '\\') (other : c ≠ quote)
      (others : Inside quote rest) : Inside quote (c :: rest)

/-- What a text between quotes stands for. -/
def meaning (strict : Bool) (quote : Char) : List Char → List Char
  | '\\' :: c :: rest =>
    if c == quote || (strict && c == '\\') then c :: meaning strict quote rest
    else '\\' :: c :: meaning strict quote rest
  | c :: rest => c :: meaning strict quote rest
  | [] => []

/-- Whether a text can be written between quotes in the form that is not strict. -/
def Quotable (quote : Char) : List Char → Prop
  | ['\\'] => False
  | '\\' :: c :: rest => c ≠ quote ∧ Quotable quote rest
  | _ :: rest => Quotable quote rest
  | [] => True

variable {strict : Bool} {quote c : Char} {cs text rest rest' : List Char}

theorem inside_of_plain (plain : ∀ c ∈ cs, c ≠ '\\' ∧ c ≠ quote) : Inside quote cs := by
  induction cs with
  | nil => exact .nil
  | cons c rest ih =>
    obtain ⟨here, others⟩ := List.forall_mem_cons.1 plain
    exact .char here.1 here.2 (ih others)

theorem read_pair (strict : Bool) (quote c : Char) (rest : List Char) :
    read strict quote ('\\' :: c :: rest)
      = (read strict quote rest).map fun (text, rest) =>
          if c == quote || (strict && c == '\\') then (c :: text, rest)
          else ('\\' :: c :: text, rest) :=
  rfl

theorem read_plain (strict : Bool) (plain : c ≠ '\\') (rest : List Char) :
    read strict quote (c :: rest)
      = if c == quote then some ([], rest)
        else (read strict quote rest).map fun (text, rest) => (c :: text, rest) := by
  rw [read]
  · simpa using fun same _ => absurd same plain
  · rintro d rest rfl
    exact absurd rfl plain

theorem read_quote (strict : Bool) (ordinary : quote ≠ '\\') (rest : List Char) :
    read strict quote (quote :: rest) = some ([], rest) := by
  rw [read_plain strict ordinary, if_pos (beq_self_eq_true quote)]

theorem read_char (strict : Bool) (plain : c ≠ '\\') (other : c ≠ quote) (rest : List Char) :
    read strict quote (c :: rest)
      = (read strict quote rest).map fun (text, rest) => (c :: text, rest) := by
  rw [read_plain strict plain, if_neg (by simpa using other)]

theorem meaning_escaped (strict : Bool) (quote c : Char) (rest : List Char) :
    meaning strict quote ('\\' :: c :: rest)
      = if c == quote || (strict && c == '\\') then c :: meaning strict quote rest
        else '\\' :: c :: meaning strict quote rest :=
  rfl

theorem meaning_char (strict : Bool) (quote : Char) (plain : c ≠ '\\') (rest : List Char) :
    meaning strict quote (c :: rest) = c :: meaning strict quote rest := by
  rw [meaning]
  rintro d rest rfl
  exact absurd rfl plain

/-- A text between quotes is read up to the closing quote. -/
theorem Inside.read (h : Inside quote cs) (strict : Bool) (ordinary : quote ≠ '\\')
    (rest : List Char) :
    read strict quote (cs ++ quote :: rest) = some (meaning strict quote cs, rest) := by
  induction h with
  | nil => exact read_quote strict ordinary rest
  | @pair c cs others ih =>
    simp only [List.cons_append, read_pair, ih, Option.map_some, meaning_escaped]
    split <;> rfl
  | char plain other others ih =>
    rw [List.cons_append, read_char strict plain other, ih, meaning_char strict quote plain]
    rfl

/-- What is read is the meaning of a text between quotes. -/
theorem inside_of_read (h : read strict quote cs = some (text, rest)) :
    ∃ raw, Inside quote raw ∧ cs = raw ++ quote :: rest ∧ text = meaning strict quote raw := by
  fun_induction read strict quote cs generalizing text with
  | case1 => cases h
  | case2 => cases h
  | case3 c cs ih =>
    obtain ⟨⟨t, r⟩, read, eq⟩ := Option.map_eq_some_iff.1 h
    obtain rfl : r = rest := by
      dsimp only at eq
      split at eq <;> exact (Prod.mk.inj eq).2
    obtain ⟨raw, inside, rfl, rfl⟩ := ih read
    refine ⟨'\\' :: c :: raw, inside.pair, rfl, ?_⟩
    rw [meaning_escaped]
    dsimp only at eq
    split at eq
    · next same =>
      rw [if_pos same]
      exact (Prod.mk.inj eq).1.symm
    · next differ =>
      rw [if_neg differ]
      exact (Prod.mk.inj eq).1.symm
  | case4 c cs notLast notPair isQuote =>
    cases h
    exact ⟨[], .nil, by rw [eq_of_beq isQuote]; rfl, rfl⟩
  | case5 c cs notLast notPair notQuote ih =>
    obtain ⟨⟨t, r⟩, read, eq⟩ := Option.map_eq_some_iff.1 h
    obtain ⟨rfl, rfl⟩ := Prod.mk.inj eq
    obtain ⟨raw, inside, rfl, rfl⟩ := ih read
    have plain : c ≠ '\\' := by
      rintro rfl
      cases raw with
      | nil => exact notPair _ _ rfl rfl
      | cons d raw => exact notPair _ _ rfl rfl
    refine ⟨c :: raw, .char plain (by simpa using notQuote) inside, rfl, ?_⟩
    rw [meaning_char strict quote plain]

/-! ## Writing -/

theorem escape_plain (strict : Bool) (plain : c ≠ '\\') (rest : List Char) :
    escape strict quote (c :: rest)
      = if c == quote then '\\' :: c :: escape strict quote rest
        else c :: escape strict quote rest := by
  rw [escape]
  · simpa using fun same _ => absurd same plain
  · rintro d rest rfl
    exact absurd rfl plain

theorem escape_char (strict : Bool) (plain : c ≠ '\\') (other : c ≠ quote) (rest : List Char) :
    escape strict quote (c :: rest) = c :: escape strict quote rest := by
  rw [escape_plain strict plain, if_neg (by simpa using other)]

theorem escape_quote (strict : Bool) (ordinary : quote ≠ '\\') (rest : List Char) :
    escape strict quote (quote :: rest) = '\\' :: quote :: escape strict quote rest := by
  rw [escape_plain strict ordinary, if_pos (beq_self_eq_true quote)]

theorem escape_backslash (quote : Char) (rest : List Char) :
    escape true quote ('\\' :: rest) = '\\' :: '\\' :: escape true quote rest := by
  cases rest <;> rfl

theorem escape_escaped (quote c : Char) (rest : List Char) :
    escape false quote ('\\' :: c :: rest)
      = if c == quote then '\\' :: '\\' :: c :: escape false quote rest
        else '\\' :: c :: escape false quote rest :=
  rfl

theorem escape_pair (other : c ≠ quote) (rest : List Char) :
    escape false quote ('\\' :: c :: rest) = '\\' :: c :: escape false quote rest := by
  rw [escape_escaped, if_neg (by simpa using other)]

theorem meaning_pair (other : c ≠ quote) (rest : List Char) :
    meaning false quote ('\\' :: c :: rest) = '\\' :: c :: meaning false quote rest := by
  rw [meaning_escaped, if_neg (by simpa using other)]

theorem meaning_quote (strict : Bool) (quote : Char) (rest : List Char) :
    meaning strict quote ('\\' :: quote :: rest) = quote :: meaning strict quote rest := by
  rw [meaning_escaped, if_pos (by simp)]

theorem quotable_pair :
    Quotable quote ('\\' :: c :: rest) ↔ c ≠ quote ∧ Quotable quote rest :=
  Iff.rfl

theorem quotable_char (plain : c ≠ '\\') : Quotable quote (c :: rest) ↔ Quotable quote rest := by
  conv => lhs; unfold Quotable
  split <;> simp_all

/-- In the strict form every text can be written between quotes. -/
theorem inside_escape (ordinary : quote ≠ '\\') (text : List Char) :
    Inside quote (escape true quote text) ∧ meaning true quote (escape true quote text) = text := by
  induction text with
  | nil => exact ⟨.nil, rfl⟩
  | cons c text ih =>
    obtain ⟨inside, same⟩ := ih
    by_cases backslash : c = '\\'
    · subst backslash
      rw [escape_backslash]
      refine ⟨inside.pair, ?_⟩
      rw [meaning_escaped, if_pos (by simp), same]
    · by_cases isQuote : c = quote
      · subst isQuote
        rw [escape_quote true ordinary]
        refine ⟨inside.pair, ?_⟩
        rw [meaning_quote, same]
      · rw [escape_char true backslash isQuote]
        refine ⟨.char backslash isQuote inside, ?_⟩
        rw [meaning_char true quote backslash, same]

/-- In the form that is not strict, the texts without a backslash before a quote or at the end can be
written between quotes. -/
theorem Quotable.inside_escape (h : Quotable quote text) (ordinary : quote ≠ '\\') :
    Inside quote (escape false quote text)
      ∧ meaning false quote (escape false quote text) = text := by
  fun_induction Quotable quote text with
  | case1 => cases h
  | case2 c rest ih =>
    obtain ⟨inside, same⟩ := ih h.2
    rw [escape_pair h.1]
    refine ⟨inside.pair, ?_⟩
    rw [meaning_pair h.1, same]
  | case3 c rest notLast notPair ih =>
    obtain ⟨inside, same⟩ := ih h
    have backslash : c ≠ '\\' := by
      rintro rfl
      cases rest with
      | nil => exact notLast rfl rfl
      | cons d rest => exact notPair _ _ rfl rfl
    by_cases isQuote : c = quote
    · subst isQuote
      rw [escape_quote false ordinary]
      refine ⟨inside.pair, ?_⟩
      rw [meaning_quote, same]
    · rw [escape_char false backslash isQuote]
      refine ⟨.char backslash isQuote inside, ?_⟩
      rw [meaning_char false quote backslash, same]
  | case4 => exact ⟨.nil, rfl⟩

/-- What stands between quotes can be written between them again. -/
theorem Inside.quotable (h : Inside quote cs) (ordinary : quote ≠ '\\') :
    Quotable quote (meaning false quote cs) := by
  induction h with
  | nil => trivial
  | @pair c rest others ih =>
    by_cases isQuote : c = quote
    · subst isQuote
      rw [meaning_quote, quotable_char ordinary]
      exact ih
    · rw [meaning_pair isQuote, quotable_pair]
      exact ⟨isQuote, ih⟩
  | char plain other others ih =>
    rw [meaning_char false quote plain, quotable_char plain]
    exact ih

/-- How a text is misread that cannot be written between quotes: up to the first quote that has a
backslash before it, with one more backslash, or with a quote and what follows it in the place of the
last backslash. -/
def Misread (quote : Char) (cs text : List Char) : Prop :=
  (∃ before after, cs = before ++ '\\' :: quote :: after ∧ text = before ++ ['\\', '\\'])
    ∨ ∃ before after, cs = before ++ ['\\'] ∧ text = before ++ quote :: after

theorem Misread.cons (h : Misread quote cs text) (c : Char) :
    Misread quote (c :: cs) (c :: text) := by
  rcases h with ⟨before, after, rfl, rfl⟩ | ⟨before, after, rfl, rfl⟩
  · exact .inl ⟨c :: before, after, rfl, rfl⟩
  · exact .inr ⟨c :: before, after, rfl, rfl⟩

theorem misread_of_read (h : ¬ Quotable quote cs) (ordinary : quote ≠ '\\')
    (reads : read false quote (escape false quote cs ++ quote :: rest) = some (text, rest')) :
    Misread quote cs text := by
  fun_induction Quotable quote cs generalizing text with
  | case1 =>
    obtain ⟨⟨t, r⟩, -, eq⟩ := Option.map_eq_some_iff.1 ((read_pair ..).symm.trans reads)
    simp only [beq_self_eq_true, Bool.true_or, if_true] at eq
    obtain ⟨rfl, rfl⟩ := Prod.mk.inj eq
    exact .inr ⟨[], t, rfl, rfl⟩
  | case2 c cs ih =>
    by_cases isQuote : c = quote
    · subst isQuote
      rw [escape_escaped, if_pos (beq_self_eq_true c)] at reads
      obtain ⟨⟨t, r⟩, read, eq⟩ := Option.map_eq_some_iff.1 ((read_pair ..).symm.trans reads)
      cases (read_quote false ordinary _).symm.trans read
      have differ : ('\\' == c) = false := by simpa using ordinary.symm
      simp only [differ, Bool.false_and, Bool.or_false, Bool.false_eq_true, if_false] at eq
      obtain ⟨rfl, rfl⟩ := Prod.mk.inj eq
      exact .inl ⟨[], cs, rfl, rfl⟩
    · rw [escape_pair isQuote, List.cons_append, List.cons_append, read_pair] at reads
      obtain ⟨⟨t, r⟩, read, eq⟩ := Option.map_eq_some_iff.1 reads
      simp only [beq_iff_eq, isQuote, Bool.false_and, Bool.or_false, if_false] at eq
      obtain ⟨rfl, rfl⟩ := Prod.mk.inj eq
      exact ((ih (fun quotable => h ⟨isQuote, quotable⟩) read).cons c).cons '\\'
  | case3 c cs notLast notPair ih =>
    have backslash : c ≠ '\\' := by
      rintro rfl
      cases cs with
      | nil => exact notLast rfl rfl
      | cons d cs => exact notPair _ _ rfl rfl
    by_cases isQuote : c = quote
    · subst isQuote
      rw [escape_quote false ordinary, List.cons_append, List.cons_append, read_pair] at reads
      obtain ⟨⟨t, r⟩, read, eq⟩ := Option.map_eq_some_iff.1 reads
      simp only [beq_self_eq_true, Bool.true_or, if_true] at eq
      obtain ⟨rfl, rfl⟩ := Prod.mk.inj eq
      exact (ih h read).cons c
    · rw [escape_char false backslash isQuote, List.cons_append, read_char false backslash isQuote]
        at reads
      obtain ⟨⟨t, r⟩, read, eq⟩ := Option.map_eq_some_iff.1 reads
      obtain ⟨rfl, rfl⟩ := Prod.mk.inj eq
      exact (ih h read).cons c
  | case4 => exact absurd trivial h

end SpanSearch.Quoted
