import SpanSearch.Proofs.Pattern.Quotes

/-! # Where the characters of quoted text come from

Each character of the meaning of a quoted text was read from one place of the text. Where a quote was
escaped, two characters of the text give one of the meaning. So a character of the meaning was read
from as many places after its own as there are quotes up to it.
-/

namespace SpanSearch.Quoted

/-- The characters that a text between quotes stands for, each with the place it was read from.
`place` is that of the first character of the text. -/
def traced (quote : Char) (place : Nat) : List Char → List (Char × Nat)
  | '\\' :: c :: rest =>
    if c == quote then (c, place + 1) :: traced quote (place + 2) rest
    else ('\\', place) :: (c, place + 1) :: traced quote (place + 2) rest
  | c :: rest => (c, place) :: traced quote (place + 1) rest
  | [] => []

/-- The place that the character at `k` was read from. That of the end of the text is just after
it. -/
def origin (quote : Char) (place : Nat) (cs : List Char) (k : Nat) : Nat :=
  ((traced quote place cs)[k]?.map (·.2)).getD (place + cs.length)

section

variable {quote c : Char} {cs all rest : List Char} {place i k : Nat}

theorem traced_char (quote : Char) (place : Nat) (plain : c ≠ '\\') (cs : List Char) :
    traced quote place (c :: cs) = (c, place) :: traced quote (place + 1) cs := by
  rw [traced]
  rintro d rest rfl
  exact absurd rfl plain

theorem traced_escaped (quote : Char) (place : Nat) (c : Char) (cs : List Char) :
    traced quote place ('\\' :: c :: cs)
      = if c == quote then (c, place + 1) :: traced quote (place + 2) cs
        else ('\\', place) :: (c, place + 1) :: traced quote (place + 2) cs :=
  rfl

/-- What is traced is the meaning. -/
theorem map_traced (quote : Char) (place : Nat) (cs : List Char) :
    (traced quote place cs).map (·.1) = meaning false quote cs := by
  fun_induction traced quote place cs with
  | case1 place c cs isQuote ih => simp [meaning_escaped, isQuote, ih]
  | case2 place c cs notQuote ih => simp [meaning_escaped, notQuote, ih]
  | case3 place c cs noPair ih =>
    rw [meaning]
    · simp [ih]
    · exact noPair
  | case4 => rfl

theorem getElem?_of_drop (here : all.drop place = cs) (j : Nat) : all[place + j]? = cs[j]? := by
  rw [← here, List.getElem?_drop]

theorem drop_of_drop (here : all.drop place = cs) (j : Nat) :
    all.drop (place + j) = cs.drop j := by
  rw [← here, List.drop_drop]

/-- A character was read from where it stands. -/
theorem getElem?_of_mem_traced (here : all.drop place = cs ++ rest)
    (mem : (c, i) ∈ traced quote place cs) : all[i]? = some c := by
  fun_induction traced quote place cs with
  | case1 place d cs isQuote ih =>
    obtain eq | mem := List.mem_cons.1 mem
    · cases eq
      exact getElem?_of_drop here 1
    · exact ih (drop_of_drop here 2) mem
  | case2 place d cs notQuote ih =>
    obtain eq | mem := List.mem_cons.1 mem
    · cases eq
      exact getElem?_of_drop here 0
    · obtain eq | mem := List.mem_cons.1 mem
      · cases eq
        exact getElem?_of_drop here 1
      · exact ih (drop_of_drop here 2) mem
  | case3 place d cs noPair ih =>
    obtain eq | mem := List.mem_cons.1 mem
    · cases eq
      exact getElem?_of_drop here 0
    · exact ih (drop_of_drop here 1) mem
  | case4 => cases mem

/-- The place that a character of the meaning was read from has this character. -/
theorem getElem?_origin (here : all.drop place = cs ++ rest)
    (lt : k < (meaning false quote cs).length) :
    all[origin quote place cs k]? = (meaning false quote cs)[k]? := by
  rw [← map_traced quote place cs] at lt ⊢
  rw [List.length_map] at lt
  have found := List.getElem?_eq_getElem lt
  rw [origin, List.getElem?_map, found]
  exact getElem?_of_mem_traced here (List.getElem_mem lt)

/-! ## Escaped quotes -/

theorem origin_quote (quote : Char) (place : Nat) (cs : List Char) (k : Nat) :
    origin quote place ('\\' :: quote :: cs) (k + 1) = origin quote (place + 2) cs k := by
  have length : place + ('\\' :: quote :: cs).length = place + 2 + cs.length := by
    simp only [List.length_cons]
    omega
  rw [origin, length, traced_escaped, if_pos (beq_self_eq_true quote)]
  rfl

theorem origin_pair (other : c ≠ quote) (place : Nat) (cs : List Char) (k : Nat) :
    origin quote place ('\\' :: c :: cs) (k + 2) = origin quote (place + 2) cs k := by
  have length : place + ('\\' :: c :: cs).length = place + 2 + cs.length := by
    simp only [List.length_cons]
    omega
  rw [origin, length, traced_escaped, if_neg (by simpa using other)]
  rfl

theorem origin_char (quote : Char) (place : Nat) (plain : c ≠ '\\') (cs : List Char) (k : Nat) :
    origin quote place (c :: cs) (k + 1) = origin quote (place + 1) cs k := by
  have length : place + (c :: cs).length = place + 1 + cs.length := by
    simp only [List.length_cons]
    omega
  rw [origin, length, traced_char quote place plain]
  rfl

/-- A character was read from as many places after its own as there are quotes up to it. -/
theorem origin_eq (inside : Inside quote cs) (ordinary : quote ≠ '\\')
    (most : k ≤ (meaning false quote cs).length) :
    origin quote place cs k = place + k + ((meaning false quote cs).take (k + 1)).count quote := by
  induction inside generalizing place k with
  | nil =>
    obtain rfl : k = 0 := Nat.le_zero.1 most
    rfl
  | @pair d cs others ih =>
    by_cases isQuote : d = quote
    · subst isQuote
      rw [meaning_quote] at most ⊢
      cases k with
      | zero => simp [origin, traced_escaped]
      | succ k =>
        rw [origin_quote, ih (Nat.le_of_succ_le_succ most), List.take_succ_cons,
          List.count_cons_self]
        omega
    · rw [meaning_pair isQuote] at most ⊢
      match k with
      | 0 => simp [origin, traced_escaped, isQuote, Ne.symm ordinary]
      | 1 => simp [origin, traced_escaped, isQuote, Ne.symm ordinary]
      | k + 2 =>
        rw [origin_pair isQuote, ih (Nat.le_of_succ_le_succ (Nat.le_of_succ_le_succ most)),
          List.take_succ_cons, List.take_succ_cons, List.count_cons_of_ne (Ne.symm ordinary),
          List.count_cons_of_ne isQuote]
        omega
  | @char d cs plain other others ih =>
    rw [meaning_char false quote plain] at most ⊢
    cases k with
    | zero => simp [origin, traced_char quote place plain, other]
    | succ k =>
      rw [origin_char quote place plain, ih (Nat.le_of_succ_le_succ most), List.take_succ_cons,
        List.count_cons_of_ne other]
      omega

end

end SpanSearch.Quoted
