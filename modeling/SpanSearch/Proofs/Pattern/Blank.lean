import Mathlib.Data.List.TakeWhile
import SpanSearch.Unicode.Space

/-! # White space around texts

What is left of a text without the white space at its start, or at its end.
-/

namespace SpanSearch.Pattern

open Unicode

/-- The code points of white space. -/
def spaceCodes : List Nat :=
  [9, 10, 11, 12, 13, 32, 0x85, 0xA0, 0x1680, 0x2000, 0x2001, 0x2002, 0x2003, 0x2004, 0x2005,
    0x2006, 0x2007, 0x2008, 0x2009, 0x200A, 0x2028, 0x2029, 0x202F, 0x205F, 0x3000]

theorem mem_spaceCodes {c : Char} (h : isSpace c = true) : c.toNat ∈ spaceCodes := by
  simp only [isSpace, Bool.or_eq_true, Bool.and_eq_true, decide_eq_true_eq, beq_iff_eq] at h
  simp only [spaceCodes, List.mem_cons, List.not_mem_nil, or_false]
  omega

/-- Whether a text is white space. -/
def Blank (cs : List Char) : Prop := ∀ c ∈ cs, isSpace c = true

section

variable {b cs rest : List Char} {c : Char}

theorem blank_nil : Blank [] := fun _ mem => nomatch mem

theorem Blank.trimStart_append (blank : Blank b) (cs : List Char) :
    trimStart (b ++ cs) = trimStart cs :=
  List.dropWhile_append_of_pos blank

theorem trimStart_cons (h : isSpace c = false) (cs : List Char) :
    trimStart (c :: cs) = c :: cs :=
  List.dropWhile_cons_of_neg (by simp [h])

theorem solid_of_trimStart (starts : trimStart cs = c :: rest) : isSpace c = false := by
  have := List.head?_dropWhile_not isSpace cs
  rw [show cs.dropWhile isSpace = c :: rest from starts] at this
  simpa using this

theorem trimEnd_blank (blank : Blank b) : trimEnd b = [] := by
  have all : b.reverse.dropWhile isSpace = [] := by
    rw [List.dropWhile_eq_nil_iff]
    simpa [Blank] using blank
  rw [trimEnd, all, List.reverse_nil]

theorem trimEnd_append (noSpace : isSpace c = false) (text cs : List Char) :
    trimEnd (text ++ c :: cs) = text ++ c :: trimEnd cs := by
  have stops : (c :: text.reverse).dropWhile isSpace = c :: text.reverse :=
    List.dropWhile_cons_of_neg (by simp [noSpace])
  rw [trimEnd, trimEnd, List.reverse_append, List.reverse_cons, List.append_assoc,
    List.singleton_append, List.dropWhile_append, stops]
  split
  · next empty =>
    rw [List.isEmpty_iff] at empty
    simp [empty]
  · simp

theorem blank_iff_trimStart : Blank cs ↔ trimStart cs = [] :=
  List.dropWhile_eq_nil_iff.symm

/-- A text is white space and what is left of it without that. -/
theorem exists_blank (cs : List Char) : ∃ b, Blank b ∧ cs = b ++ trimStart cs :=
  ⟨cs.takeWhile isSpace, fun _ mem => List.mem_takeWhile_imp mem,
    (List.takeWhile_append_dropWhile).symm⟩

end

end SpanSearch.Pattern
