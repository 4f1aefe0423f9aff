import SpanSearch.Regex.Parser

/-! # What is left when a part of an expression has been read

Each reader leaves a suffix of the text it reads from. What reads an item of a class, or a class, takes
at least one character.
-/

namespace SpanSearch.Regex

open Unicode

variable {cs rest : List Char} {c : Char} {spaced : Bool} {options : RegexOptions} {fuel : Nat}

theorem suffix_of_cons_suffix (h : c :: rest <:+ cs) : rest <:+ cs := (List.suffix_cons c rest).trans h

theorem suffix_cons_of_suffix (c : Char) (h : rest <:+ cs) : rest <:+ c :: cs :=
  h.trans (List.suffix_cons c cs)

grind_pattern suffix_of_cons_suffix => c :: rest <:+ cs

/-! ## Layout -/

theorem skipComment_suffix (cs : List Char) : skipComment cs <:+ cs := by
  induction cs with
  | nil => exact List.suffix_rfl
  | cons c cs ih =>
    rw [skipComment]
    split
    · exact List.suffix_cons c cs
    · exact suffix_cons_of_suffix c ih

theorem skipLayout_nil : skip.skipLayout [] = [] := by
  rw [skip.skipLayout.eq_def]

theorem skipLayout_cons (c : Char) (cs : List Char) :
    skip.skipLayout (c :: cs)
      = if isSpace c then skip.skipLayout cs
        else if c == '#' then skip.skipLayout (skipComment cs)
        else c :: cs := by
  rw [skip.skipLayout.eq_def]

theorem skipLayout_suffix (cs : List Char) : skip.skipLayout cs <:+ cs := by
  fun_induction skip.skipLayout cs with
  | case1 => exact List.suffix_rfl
  | case2 c cs blank ih => exact suffix_cons_of_suffix c ih
  | case3 c cs notBlank comment ih =>
    exact suffix_cons_of_suffix c (ih.trans (skipComment_suffix cs))
  | case4 => exact List.suffix_rfl

theorem skip_suffix (spaced : Bool) (cs : List Char) : skip spaced cs <:+ cs := by
  unfold skip
  split
  · exact skipLayout_suffix cs
  · exact List.suffix_rfl

grind_pattern skip_suffix => skip spaced cs

/-! ## Escapes -/

theorem readHexDigits_suffix {count : Nat} {digits : List Char}
    (h : readHexDigits spaced count cs = some (digits, rest)) : rest <:+ cs := by
  induction count generalizing cs digits with
  | zero =>
    cases h
    exact List.suffix_rfl
  | succ count ih =>
    unfold readHexDigits at h
    grind [Option.map_eq_some_iff]

theorem readBraced_suffix {inner : List Char}
    (h : readBraced spaced fuel cs = some (inner, rest)) : rest <:+ cs := by
  induction fuel generalizing cs inner with
  | zero => cases h
  | succ fuel ih =>
    unfold readBraced at h
    grind [Option.map_eq_some_iff]

theorem readHex_suffix {kind : Char} {symbol : Symbol}
    (h : readHex spaced kind cs = some (symbol, rest)) : rest <:+ cs := by
  unfold readHex at h
  simp only [bind, Option.bind] at h
  grind [→ readBraced_suffix, → readHexDigits_suffix]

theorem readClassName_suffix {negated : Bool} {symbol : Symbol}
    (h : readClassName options negated cs = some (symbol, rest)) : rest <:+ cs := by
  unfold readClassName at h
  simp only [bind, Option.bind] at h
  grind [→ readBraced_suffix]

theorem readEdge_suffix {edge : Look} (h : readEdge options cs = some (edge, rest)) :
    rest <:+ cs := by
  unfold readEdge at h
  simp only [bind, Option.bind] at h
  grind [→ readBraced_suffix, List.suffix_refl]

/-- All escapes but some are read from their first character alone. -/
theorem readEscape_plain (options : RegexOptions)
    (notHex : (c == 'x' || c == 'u' || c == 'U') = false)
    (notClass : (c == 'p' || c == 'P') = false) (notEdge : c ≠ 'b') (cs : List Char) :
    readEscape options (c :: cs)
      = ((readEscape options [c]).map (·.1)).map fun symbol => (symbol, cs) := by
  unfold readEscape
  simp only [notHex, notClass, Bool.false_eq_true, if_false]
  split
  · rfl
  · split
    · cases shortClass options c <;> rfl
    · split
      · rfl
      · split
        · rfl
        · split <;> first | rfl | exact absurd rfl notEdge

theorem readEscape_suffix {symbol : Symbol} (h : readEscape options cs = some (symbol, rest)) :
    rest <:+ cs.tail := by
  cases cs with
  | nil => cases h
  | cons c cs =>
    by_cases isHex : c = 'x' ∨ c = 'u' ∨ c = 'U'
    · rcases isHex with rfl | rfl | rfl
      · exact readHex_suffix h
      · exact readHex_suffix h
      · exact readHex_suffix h
    by_cases isClass : c = 'p' ∨ c = 'P'
    · rcases isClass with rfl | rfl
      · exact readClassName_suffix h
      · exact readClassName_suffix h
    by_cases isEdge : c = 'b'
    · subst isEdge
      obtain ⟨edge, read, ⟨⟩⟩ := Option.map_eq_some_iff.1 h
      exact readEdge_suffix read
    rw [readEscape_plain options (by simpa [and_assoc] using isHex) (by simpa using isClass) isEdge]
      at h
    obtain ⟨symbol, -, ⟨⟩⟩ := Option.map_eq_some_iff.1 h
    exact List.suffix_rfl

/-! ## Classes -/

theorem readAsciiClass_suffix {found : CharSet × Bool}
    (h : readAsciiClass cs = some (found, rest)) : rest <:+ cs := by
  unfold readAsciiClass at h
  grind [List.drop_suffix, Option.map_eq_some_iff]

theorem hyphens_suffix {cls cls' : OpenClass}
    (h : openClass.hyphens options fuel cls cs = (cls', rest)) : rest <:+ cs := by
  fun_induction openClass.hyphens options fuel cls cs with
  | case1 fuel cls cs ih => exact suffix_cons_of_suffix '-' ((ih h).trans (skip_suffix _ cs))
  | case2 =>
    cases h
    exact List.suffix_rfl

theorem openClass_suffix {cls : OpenClass} (h : openClass options cs = some (cls, rest)) :
    rest <:+ cs := by
  unfold openClass at h
  grind [→ hyphens_suffix]

theorem readItem_suffix {symbol : Symbol} (h : readItem options cs = some (symbol, rest)) :
    rest <:+ cs.tail := by
  unfold readItem at h
  grind [→ readEscape_suffix, List.tail_suffix]

/-- The set of an item that makes no range, where `rest` is left. -/
def single (options : RegexOptions) (first : Symbol) (rest : List Char) :
    Option (CharSet × List Char) :=
  (itemSet? options first).bind fun set => some (set, rest)

/-- What is read of a range from its second item on. -/
def rangeTo (options : RegexOptions) (first : Symbol) (cs : List Char) :
    Option (CharSet × List Char) :=
  (readItem options cs).bind fun second =>
    (itemChar? options first).bind fun lo => (itemChar? options second.1).bind fun hi =>
      if lo ≤ hi then some (.range lo.toNat hi.toNat, second.2) else none

/-- What is read of a range from what comes after its hyphen on, where `whole` starts with the
hyphen. -/
def rangeHyphen (options : RegexOptions) (first : Symbol) (whole cs : List Char) :
    Option (CharSet × List Char) :=
  match cs with
  | [] => none
  | ']' :: _ => single options first whole
  | '-' :: _ => single options first whole
  | cs => rangeTo options first cs

/-- What is read of a range when its first item has been read. -/
def rangeAfter (options : RegexOptions) (first : Symbol) (cs : List Char) :
    Option (CharSet × List Char) :=
  match cs with
  | [] => none
  | '-' :: after => rangeHyphen options first cs (skip options.spaced after)
  | _ => single options first cs

/-- Neither a bracket nor a hyphen follows, so the range has a second item. -/
theorem rangeHyphen_other {first : Symbol} {whole : List Char} (nonempty : cs ≠ [])
    (bracket : ∀ rest, cs ≠ ']' :: rest) (hyphen : ∀ rest, cs ≠ '-' :: rest) :
    rangeHyphen options first whole cs = rangeTo options first cs := by
  unfold rangeHyphen
  split
  · exact absurd rfl nonempty
  · exact absurd rfl (bracket _)
  · exact absurd rfl (hyphen _)
  · rfl

theorem rangeAfter_other {first : Symbol} (nonempty : cs ≠ []) (hyphen : ∀ rest, cs ≠ '-' :: rest) :
    rangeAfter options first cs = single options first cs := by
  unfold rangeAfter
  split
  · exact absurd rfl nonempty
  · exact absurd rfl (hyphen _)
  · rfl

theorem readRange_eq (options : RegexOptions) (cs : List Char) :
    readRange options cs = (readItem options cs).bind fun first =>
      rangeAfter options first.1 (skip options.spaced first.2) := by
  refine Option.bind_congr fun first _ => ?_
  dsimp only
  generalize skip options.spaced first.2 = ds
  split
  · rfl
  · next after =>
    change _ = rangeHyphen options first.1 ('-' :: after) (skip options.spaced after)
    generalize skip options.spaced after = es
    split
    · rfl
    · rfl
    · rfl
    · next nonempty bracket hyphen =>
      rw [rangeHyphen_other nonempty bracket hyphen]
      rfl
  · next nonempty hyphen =>
    rw [rangeAfter_other nonempty hyphen]
    rfl

theorem single_suffix {first : Symbol} {set : CharSet}
    (h : single options first cs = some (set, rest)) : rest <:+ cs := by
  obtain ⟨set', -, ⟨⟩⟩ := Option.bind_eq_some_iff.1 h
  exact List.suffix_rfl

theorem rangeTo_suffix {first : Symbol} {set : CharSet}
    (h : rangeTo options first cs = some (set, rest)) : rest <:+ cs.tail := by
  obtain ⟨⟨second, last⟩, read, h⟩ := Option.bind_eq_some_iff.1 h
  obtain ⟨lo, -, h⟩ := Option.bind_eq_some_iff.1 h
  obtain ⟨hi, -, h⟩ := Option.bind_eq_some_iff.1 h
  obtain ⟨-, ⟨⟩⟩ := Option.ite_none_right_eq_some.1 h
  exact readItem_suffix read

theorem rangeAfter_suffix {first : Symbol} {set : CharSet}
    (h : rangeAfter options first cs = some (set, rest)) : rest <:+ cs := by
  unfold rangeAfter at h
  split at h
  · cases h
  · next behind =>
    unfold rangeHyphen at h
    split at h
    · cases h
    · exact single_suffix h
    · exact single_suffix h
    · have left := (rangeTo_suffix h).trans (List.tail_suffix _)
      exact suffix_cons_of_suffix '-' (left.trans (skip_suffix _ behind))
  · exact single_suffix h

theorem readRange_suffix {set : CharSet} (h : readRange options cs = some (set, rest)) :
    rest <:+ cs.tail := by
  rw [readRange_eq] at h
  obtain ⟨⟨first, after⟩, read, h⟩ := Option.bind_eq_some_iff.1 h
  exact (rangeAfter_suffix h).trans ((skip_suffix _ after).trans (readItem_suffix read))

/-- The items of a class have at least one character. -/
theorem readItems_cons {cls : OpenClass} {found : CharSet × Nat}
    (h : readItems options fuel cls cs = some (found, rest)) :
    ∃ c inner, skip options.spaced cs = c :: inner ∧ rest <:+ inner := by
  induction fuel generalizing cs cls found rest with
  | zero => cases h
  | succ fuel ih =>
    have suffix {cs rest : List Char} {cls : OpenClass} {found : CharSet × Nat}
        (h : readItems options fuel cls cs = some (found, rest)) : rest <:+ cs := by
      obtain ⟨c, inner, eq, left⟩ := ih h
      exact suffix_of_cons_suffix (eq ▸ skip_suffix options.spaced cs) |> left.trans
    unfold readItems at h
    split at h
    · cases h
    · next inner eq =>
      obtain ⟨found', -, ⟨⟩⟩ := Option.map_eq_some_iff.1 h
      exact ⟨_, _, eq, List.suffix_rfl⟩
    · next inner eq => exact ⟨_, _, eq, suffix_cons_of_suffix _ (suffix h)⟩
    · next inner eq => exact ⟨_, _, eq, suffix_cons_of_suffix _ (suffix h)⟩
    · next inner eq => exact ⟨_, _, eq, suffix_cons_of_suffix _ (suffix h)⟩
    · next inner eq =>
      split at h
      · next set negated behind read =>
        obtain ⟨set, -, h⟩ := Option.bind_eq_some_iff.1 h
        exact ⟨_, _, eq, (suffix h).trans (readAsciiClass_suffix read)⟩
      · obtain ⟨⟨cls', behind⟩, opened, h⟩ := Option.bind_eq_some_iff.1 h
        obtain ⟨⟨⟨set, depth⟩, behind'⟩, read, h⟩ := Option.bind_eq_some_iff.1 h
        exact ⟨_, _, eq, ((suffix h).trans (suffix read)).trans (openClass_suffix opened)⟩
    · next notNil _ _ _ _ _ =>
      obtain ⟨⟨set, behind⟩, read, h⟩ := Option.bind_eq_some_iff.1 h
      have left := readRange_suffix read
      cases eq : skip options.spaced cs with
      | nil => exact absurd eq notNil
      | cons c inner =>
        rw [eq] at left
        exact ⟨c, inner, rfl, (suffix h).trans left⟩

theorem readItems_suffix {cls : OpenClass} {found : CharSet × Nat}
    (h : readItems options fuel cls cs = some (found, rest)) : rest <:+ cs := by
  obtain ⟨c, inner, eq, left⟩ := readItems_cons h
  have skipped := eq ▸ skip_suffix options.spaced cs
  exact left.trans (suffix_of_cons_suffix skipped)

theorem readClass_suffix {found : CharSet × Nat} (h : readClass options cs = some (found, rest)) :
    rest <:+ cs := by
  obtain ⟨⟨cls, behind⟩, opened, h⟩ := Option.bind_eq_some_iff.1 h
  exact (readItems_suffix h).trans (openClass_suffix opened)

/-! ## Groups and repetitions -/

theorem readOptions_suffix {negating : Bool} {seen seen' : List Char} {options' : RegexOptions}
    (h : readOptions options negating seen cs = some (options', seen', rest)) : rest <:+ cs := by
  induction cs generalizing options negating seen with
  | nil => cases h
  | cons c cs ih =>
    unfold readOptions at h
    grind [List.suffix_refl, List.suffix_cons]

theorem readGroupName_suffix {name : List Char} (h : readGroupName cs = some (name, rest)) :
    rest <:+ cs := by
  unfold readGroupName at h
  grind [List.drop_suffix]

theorem openGroup_suffix {p q : Progress} (h : openGroup p cs = some (q, rest)) : rest <:+ cs := by
  unfold openGroup at h
  simp only [bind, Option.bind] at h
  grind [→ readGroupName_suffix, → readOptions_suffix]

theorem digits_suffix {ds : List Char} (h : readCount.digits spaced fuel cs = (ds, rest)) :
    rest <:+ cs := by
  induction fuel generalizing cs ds with
  | zero =>
    cases h
    exact List.suffix_rfl
  | succ fuel ih =>
    unfold readCount.digits at h
    grind

theorem blanks_suffix (fuel : Nat) (cs : List Char) : readCount.blanks spaced fuel cs <:+ cs := by
  fun_induction readCount.blanks spaced fuel cs with
  | case1 fuel c rest blank ih => exact suffix_cons_of_suffix c (ih.trans (skip_suffix _ rest))
  | case2 => exact List.suffix_rfl
  | case3 => exact List.suffix_rfl

theorem readCount_suffix {n : Option Nat} (h : readCount spaced cs = (n, rest)) : rest <:+ cs := by
  unfold readCount at h
  grind [→ digits_suffix, blanks_suffix, List.dropWhile_suffix]

theorem skipLazy_suffix (cs : List Char) : skipLazy cs <:+ cs := by
  unfold skipLazy
  split
  · exact List.suffix_cons _ _
  · exact List.suffix_rfl

theorem skipLazy_skip_suffix (spaced : Bool) (cs : List Char) :
    skipLazy (skip spaced cs) <:+ cs :=
  (skipLazy_suffix _).trans (skip_suffix spaced cs)

theorem readCounts_suffix {counts : Nat × Option Nat}
    (h : readCounts spaced cs = some (counts, rest)) : rest <:+ cs := by
  have skipped := skip_suffix spaced cs
  unfold readCounts at h
  split at h
  · cases h
  · grind [→ readCount_suffix, skipLazy_skip_suffix]

end SpanSearch.Regex
