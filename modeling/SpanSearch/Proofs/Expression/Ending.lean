import SpanSearch.Expression.Engine

/-! # How expressions end

No lexeme ends in a backslash, so neither does a text that the engine of this library accepts.
-/

namespace SpanSearch.Expression

variable {c quote : Char} {cs text rest : List Char} {p : Char → Bool}

/-- Whether a text ends in a backslash. -/
def EndsOpen (cs : List Char) : Prop := cs.getLast? = some '\\'

theorem not_endsOpen_nil : ¬ EndsOpen [] := nofun

theorem EndsOpen.tail (h : EndsOpen (c :: cs)) (other : c ≠ '\\') : EndsOpen cs := by
  cases cs with
  | nil => exact absurd (by simpa [EndsOpen] using h) other
  | cons d cs => rwa [EndsOpen, List.getLast?_cons_cons] at h

theorem EndsOpen.dropWhile (h : EndsOpen cs) (stops : p '\\' = false) :
    EndsOpen (cs.dropWhile p) := by
  induction cs with
  | nil => exact absurd h not_endsOpen_nil
  | cons c cs ih =>
    by_cases holds : p c = true
    · rw [List.dropWhile_cons_of_pos holds]
      refine ih (h.tail ?_)
      rintro rfl
      rw [stops] at holds
      cases holds
    · rwa [List.dropWhile_cons_of_neg holds]

namespace Lexeme

theorem endsOpen_of_takeText (read : takeText quote cs = some (text, rest))
    (ordinary : quote ≠ '\\') (h : EndsOpen cs) : EndsOpen rest := by
  fun_induction takeText quote cs generalizing text with
  | case1 => cases read
  | case2 c isQuote =>
    obtain rfl : c = quote := by simpa using isQuote
    exact absurd (h.tail ordinary) not_endsOpen_nil
  | case3 => cases read
  | case4 c d cs pair ih =>
    obtain ⟨⟨t, r⟩, read', eq⟩ := Option.map_eq_some_iff.1 read
    obtain ⟨-, rfl⟩ := Prod.mk.inj eq
    obtain ⟨-, rfl⟩ : c = '\\' ∧ d = quote := by simpa using pair
    have later : EndsOpen (d :: cs) := by rwa [EndsOpen, List.getLast?_cons_cons] at h
    exact ih read' (later.tail ordinary)
  | case5 c d cs notPair isQuote =>
    cases read
    obtain rfl : c = quote := by simpa using isQuote
    exact h.tail ordinary
  | case6 c d cs notPair notQuote ih =>
    obtain ⟨⟨t, r⟩, read', eq⟩ := Option.map_eq_some_iff.1 read
    obtain ⟨-, rfl⟩ := Prod.mk.inj eq
    exact ih read' (by rwa [EndsOpen, List.getLast?_cons_cons] at h)

/-- A backslash at the end is not taken by any lexeme. -/
theorem endsOpen_of_take {lexeme : Lexeme} (read : take c cs = .ok (lexeme, rest))
    (h : EndsOpen (c :: cs)) : EndsOpen rest := by
  by_cases backslash : c = '\\'
  · subst backslash
    cases (show take '\\' cs = .error (.unexpectedCharacter '\\') from rfl).symm.trans read
  have later := h.tail backslash
  have afterName : EndsOpen (cs.dropWhile isNameChar) := later.dropWhile (by decide)
  have afterDigits : EndsOpen (cs.dropWhile isNumberChar) := later.dropWhile (by decide)
  have afterEqual {tail : List Char} (eq : cs = '=' :: tail) : EndsOpen tail :=
    (eq ▸ later).tail (by decide)
  have afterText {text : List Char} (isQuote : (c == '\'' || c == '"') = true)
      (read : takeText c cs = some (text, rest)) : EndsOpen rest := by
    refine endsOpen_of_takeText read ?_ later
    rintro rfl
    cases isQuote
  unfold take at read
  grind

/-- No text ends in a backslash that is made of lexemes. -/
theorem not_endsOpen_of_scan {offset : Nat} {lexemes : List (Lexeme × Nat)}
    (read : scan offset cs = .ok lexemes) : ¬ EndsOpen cs := by
  fun_induction scan offset cs generalizing lexemes with
  | case1 => exact not_endsOpen_nil
  | case2 offset c cs space ih =>
    intro h
    refine ih read (h.tail ?_)
    rintro rfl
    exact absurd space (by decide)
  | case3 => cases read
  | case4 offset c cs noSpace lexeme after taken ih =>
    intro h
    cases later : scan (offset + (cs.length + 1 - after.length)) after with
    | error t => simp [later, Except.map] at read
    | ok lexemes' => exact ih later (endsOpen_of_take taken h)

end Lexeme

/-- An expression of the engine of this library keeps the text it was read from. -/
theorem source_of_standard {source : String} {e : Expression} (read : standard source = .ok e) :
    e.source = source := by
  unfold standard at read
  split at read
  · cases read
    rfl
  · cases read

theorem not_endsOpen_of_standard {e : Expression}
    (read : standard (String.ofList cs) = .ok e) : ¬ EndsOpen cs := by
  unfold standard Term.parse at read
  rw [String.toList_ofList] at read
  cases scanned : Lexeme.scan 0 cs with
  | error t => simp [scanned, bind, Except.bind] at read
  | ok lexemes => exact Lexeme.not_endsOpen_of_scan scanned

/-- A star by itself is no expression. -/
theorem standard_star (e : Expression) : standard "*" ≠ .ok e := by
  have refused : standard "*" = .error (.malformed (.unexpectedCharacter '*') 0) := by cbv
  rw [refused]
  rintro ⟨⟩

end SpanSearch.Expression
