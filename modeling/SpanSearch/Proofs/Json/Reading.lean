import SpanSearch.Json.Reader
import SpanSearch.Proofs.Digits
import SpanSearch.Proofs.Json.Writing

/-! # How written JSON is read

A reader gives a value wherever that is written, however much white space there is, and whatever comes
after it. This is shown of plain values first, and then of lists, tables and records of what their items
and fields are read as.
-/

namespace SpanSearch

open Number

namespace Json

/-- Whether a text may come after a value, so that a number does not go on with it. -/
def Ends (rest : List Char) : Prop :=
  ∀ c ∈ rest.head?, isBlank c = true ∨ c = ',' ∨ c = ']' ∨ c = '}'

/-- Whether a reader gives a value wherever a text writes a tree. -/
def Reads (read : Reader α) (t : Tree) (value : α) : Prop :=
  ∀ ⦃blank cs rest : List Char⦄, Blank blank → Writes t cs → Ends rest →
    read (blank ++ (cs ++ rest)) = .ok (value, rest)

variable {blank cs rest : List Char} {c : Char}

/-! ## White space -/

theorem skipBlank_append (space : Blank blank) (cs : List Char) :
    skipBlank (blank ++ cs) = skipBlank cs :=
  List.dropWhile_append_of_pos space

theorem skipBlank_cons (solid : isBlank c = false) (cs : List Char) :
    skipBlank (c :: cs) = c :: cs :=
  List.dropWhile_cons_of_neg (by simp [solid])

theorem ends_nil : Ends [] := nofun

theorem ends_cons (ends : isBlank c = true ∨ c = ',' ∨ c = ']' ∨ c = '}') (cs : List Char) :
    Ends (c :: cs) := by
  intro d mem
  cases mem
  exact ends

theorem Blank.ends (space : Blank blank) (ends : Ends rest) : Ends (blank ++ rest) := by
  cases blank with
  | nil => exact ends
  | cons c blank => exact ends_cons (.inl (space c List.mem_cons_self)) _

/-! ## Texts -/

theorem hexValue?_hexDigit : ∀ n < 16, hexValue? (hexDigit n) = some n := by decide

theorem readHex_hexDigits (small : c.toNat < 32) (cs : List Char) :
    readHex ('0' :: '0' :: hexDigit (c.toNat / 16) :: hexDigit (c.toNat % 16) :: cs)
      = .ok (c.toNat, cs) := by
  have high := hexValue?_hexDigit (c.toNat / 16) (by omega)
  have low := hexValue?_hexDigit (c.toNat % 16) (by omega)
  have zero : hexValue? '0' = some 0 := by decide
  simp only [readHex, high, low, zero, Except.ok.injEq, Prod.mk.injEq, and_true]
  omega

/-- An escape is read as the character that it stands for. -/
theorem readText_backslash (reads : readEscape false cs = .ok (c, rest)) :
    readText false ('\\' :: cs) = (readText false rest).map fun found => (c :: found.1, found.2) := by
  rw [readText]
  simp only [show ('\\' == '"') = false from rfl, show ('\\' == '\\') = true from rfl,
    Bool.false_eq_true, if_false, if_true]
  split
  · next failed => cases reads.symm.trans failed
  · next read =>
    cases reads.symm.trans read
    cases readText false rest <;> rfl

theorem readText_plain (notQuote : c ≠ '"') (notBackslash : c ≠ '\\') (large : 32 ≤ c.toNat)
    (cs : List Char) :
    readText false (c :: cs) = (readText false cs).map fun found => (c :: found.1, found.2) := by
  rw [readText]
  simp only [beq_eq_false_iff_ne.2 notQuote, beq_eq_false_iff_ne.2 notBackslash,
    Nat.not_lt.2 large, Bool.false_eq_true, if_false]
  cases readText false cs <;> rfl

/-- A character is read as it is written between quotes. -/
theorem readText_escapeChar (c : Char) (cs : List Char) :
    readText false (escapeChar c ++ cs)
      = (readText false cs).map fun found => (c :: found.1, found.2) := by
  by_cases short : c ∈ ['"', '\\', '\n', '\r', '\t', '\x08', '\x0c']
  · simp only [List.mem_cons, List.not_mem_nil, or_false] at short
    rcases short with rfl | rfl | rfl | rfl | rfl | rfl | rfl <;> exact readText_backslash rfl
  · simp only [List.mem_cons, List.not_mem_nil, or_false, not_or] at short
    simp only [escapeChar, beq_iff_eq, short, if_false]
    split
    · next small =>
      have noHalf : isLowHalf c.toNat = false ∧ isHighHalf c.toNat = false := by
        simp only [isLowHalf, isHighHalf, Bool.and_eq_false_iff, decide_eq_false_iff_not]
        omega
      have read : readUnit false
          ('0' :: '0' :: hexDigit (c.toNat / 16) :: hexDigit (c.toNat % 16) :: cs) = .ok (c, cs) := by
        simp only [readUnit, readHex_hexDigits small, noHalf.1, noHalf.2, Bool.false_eq_true,
          if_false, Char.ofNat_toNat]
      exact readText_backslash read
    · next large => exact readText_plain short.1 short.2.1 (Nat.not_lt.1 large) cs

theorem readText_escaped (text rest : List Char) :
    readText false (text.flatMap escapeChar ++ '"' :: rest) = .ok (text, rest) := by
  induction text with
  | nil =>
    rw [List.flatMap_nil, List.nil_append, readText]
    rfl
  | cons c text ih =>
    rw [List.flatMap_cons, List.append_assoc, readText_escapeChar, ih]
    rfl

theorem quote_append (s : String) (rest : List Char) :
    quote s ++ rest = '"' :: (s.toList.flatMap escapeChar ++ '"' :: rest) := by
  simp only [quote, List.cons_append, List.append_assoc, List.nil_append]

theorem reads_text (s : String) : Reads Reader.text (.text s) s := by
  intro blank cs rest space written ends
  cases written
  rw [quote_append, Reader.text, skipBlank_append space, skipBlank_cons (by decide)]
  simp only [Reader.map, readText_escaped, String.ofList_toList]

theorem reads_optionalText (s : String) : Reads Reader.optionalText (.text s) (some s) := by
  intro blank cs rest space written ends
  have read := reads_text s blank_nil (.text s) ends
  cases written
  rw [List.nil_append, quote_append] at read
  rw [quote_append, Reader.optionalText, skipBlank_append space, skipBlank_cons (by decide)]
  change Reader.map some Reader.text _ = _
  rw [Reader.map, read]

/-! ## Truth values and numbers -/

theorem reads_boolean (b : Bool) : Reads Reader.boolean (.bool b) b := by
  intro blank cs rest space written _
  cases written
  rw [Reader.boolean, skipBlank_append space]
  cases b with
  | true => rfl
  | false => rfl

theorem printNumber_eq (n : Nat) : Tree.printNumber n = Nat.toDigits 10 n := by
  rw [Tree.printNumber, Nat.toString_eq_repr, Nat.repr, String.toList_ofList]

theorem not_digit_of_isBlank (blank : isBlank c = true) : isDigit c = false := by
  simp only [isBlank, Bool.or_eq_true, beq_iff_eq] at blank
  rcases blank with ((rfl | rfl) | rfl) | rfl <;> decide

/-- No part of a number comes after a value. -/
theorem Ends.not_number (ends : Ends (c :: rest)) :
    isDigit c = false ∧ c ≠ '.' ∧ c ≠ 'e' ∧ c ≠ 'E' := by
  rcases ends c rfl with blank | rfl | rfl | rfl
  · refine ⟨not_digit_of_isBlank blank, ?_, ?_, ?_⟩ <;> rintro rfl <;> revert blank <;> decide
  all_goals decide

theorem takeWhile_digits {digits : List Char} (all : ∀ c ∈ digits, isDigit c = true)
    (ends : Ends rest) : (digits ++ rest).takeWhile isDigit = digits := by
  rw [List.takeWhile_append_of_pos all]
  cases rest with
  | nil => exact List.append_nil _
  | cons c rest => rw [List.takeWhile_cons_of_neg (by simp [ends.not_number.1]), List.append_nil]

theorem dropWhile_digits {digits : List Char} (all : ∀ c ∈ digits, isDigit c = true)
    (ends : Ends rest) : (digits ++ rest).dropWhile isDigit = rest := by
  rw [List.dropWhile_append_of_pos all]
  cases rest with
  | nil => rfl
  | cons c rest => exact List.dropWhile_cons_of_neg (by simp [ends.not_number.1])

theorem readWhole_printNumber (n : Nat) (ends : Ends rest) :
    readWhole (Tree.printNumber n ++ rest) = .ok (Tree.printNumber n, rest) := by
  rw [printNumber_eq]
  rcases toDigits_cases n with ⟨-, zero⟩ | ⟨c, cs, digits, other⟩
  · have after : rest.head?.any isDigit = false := by
      cases rest with
      | nil => rfl
      | cons c rest => exact ends.not_number.1
    rw [zero, List.cons_append, List.nil_append, readWhole, after]
    rfl
  · have all : ∀ d ∈ c :: cs, isDigit d = true := fun d mem =>
      isDigit_of_mem_toDigits (n := n) (digits ▸ mem)
    rw [digits, List.cons_append, readWhole, readDigits]
    · simp only [all c List.mem_cons_self, if_true, ← List.cons_append, takeWhile_digits all ends,
        dropWhile_digits all ends]
    · rintro rest ⟨⟩
      exact other rfl

theorem readFraction_none (ends : Ends rest) : readFraction rest = .ok (none, rest) := by
  unfold readFraction
  split
  · exact absurd rfl ends.not_number.2.1
  · rfl

theorem readExponent_none (ends : Ends rest) : readExponent rest = .ok (none, rest) := by
  cases rest with
  | nil => rfl
  | cons c rest => simp [readExponent, ends.not_number.2.2]

theorem readUnsigned_printNumber (n : Nat) (ends : Ends rest) :
    readUnsigned false (Tree.printNumber n ++ rest)
      = .ok (⟨false, Tree.printNumber n, none, none⟩, rest) := by
  rw [readUnsigned, readWhole_printNumber n ends]
  simp only [bind, Except.bind, readFraction_none ends, readExponent_none ends]

theorem printNumber_cons (n : Nat) : ∃ c cs, Tree.printNumber n = c :: cs ∧ isDigit c = true := by
  obtain ⟨c, cs, eq⟩ := List.exists_cons_of_ne_nil (Nat.toDigits_ne_nil (b := 10) (n := n))
  exact ⟨c, cs, (printNumber_eq n).trans eq,
    isDigit_of_mem_toDigits (n := n) (eq ▸ List.mem_cons_self)⟩

/-- A number is read to the end of its digits. -/
theorem readNumber_printNumber (n : Nat) (ends : Ends rest) :
    readNumber (Tree.printNumber n ++ rest)
      = .ok (⟨false, Tree.printNumber n, none, none⟩, rest) := by
  rw [← readUnsigned_printNumber n ends]
  obtain ⟨c, cs, eq, digit⟩ := printNumber_cons n
  rw [eq, List.cons_append, readNumber]
  rintro rest ⟨⟩
  exact absurd digit (by decide)

theorem reads_natural {n : Nat} (small : n < Offset.limit) :
    Reads Reader.natural (.number n) n := by
  intro blank cs rest space written ends
  cases written
  have solid : skipBlank (Tree.printNumber n ++ rest) = Tree.printNumber n ++ rest := by
    obtain ⟨c, cs, eq, digit⟩ := printNumber_cons n
    rw [eq]
    refine skipBlank_cons (Bool.eq_false_iff.2 fun blank => ?_) _
    rw [not_digit_of_isBlank blank] at digit
    cases digit
  have value : NumberText.natural? ⟨false, Tree.printNumber n, none, none⟩ = some n := by
    simp [NumberText.natural?, printNumber_eq, ofDigits_toDigits, small]
  simp only [Reader.natural, skipBlank_append space, solid, readNumber_printNumber n ends, value]

end Json

end SpanSearch
