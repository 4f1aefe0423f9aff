import SpanSearch.Proofs.Digits
import SpanSearch.Proofs.Pattern.Words

/-! # How quantifiers are printed

Bounds that some quantifier writes are printed as a quantifier that writes them.
-/

namespace SpanSearch

/-- Whether bounds can be written: something may match, and no more than offsets can count. -/
structure Bounds.Sound (b : Bounds) : Prop where
  pos : 1 ≤ b.max
  ordered : b.min ≤ b.max
  limited : b.max ≤ Bounds.unbounded

namespace Pattern

open Unicode

section

variable {n min max : Nat} {cs inner : List Char} {b : Bounds}

/-! ## Numbers -/

theorem natural_lt (h : Number.natural? cs = some n) : n < Nat.pow 2 64 := by
  unfold Number.natural? at h
  dsimp only at h
  rw [Option.ite_none_left_eq_some] at h
  obtain ⟨-, h⟩ := h
  rw [Option.ite_none_right_eq_some] at h
  obtain ⟨small, eq⟩ := h
  cases eq
  exact small

theorem count_le (h : count? cs = some n) : n ≤ Bounds.unbounded := Nat.le_pred_of_lt (natural_lt h)

/-- The characters that a number is printed with. -/
def digits (n : Nat) : List Char := Nat.toDigits 10 n

theorem isDigit_of_mem {c : Char} (mem : c ∈ digits n) : Number.isDigit c = true :=
  Number.isDigit_of_mem_toDigits mem

theorem digit_ne {c d : Char} (mem : c ∈ digits n) (other : Number.isDigit d = false) : c ≠ d := by
  rintro rfl
  rw [isDigit_of_mem mem] at other
  cases other

theorem isSpace_of_isDigit {c : Char} (h : Number.isDigit c = true) : isSpace c = false := by
  have low : '0' ≤ c ∧ c ≤ '9' := by simpa [Number.isDigit] using h
  by_contra space
  have mem := mem_spaceCodes (by simpa using space)
  have all : ∀ m ∈ spaceCodes, ¬ (48 ≤ m ∧ m ≤ 57) := by decide
  exact all _ mem low

theorem trim_of_noSpace (h : ∀ c ∈ cs, isSpace c = false) : trim cs = cs := by
  have keep {cs : List Char} (h : ∀ c ∈ cs, isSpace c = false) : cs.dropWhile isSpace = cs := by
    cases cs with
    | nil => rfl
    | cons c cs => exact trimStart_cons (h c (by simp)) cs
  rw [trim, trimStart, keep h, trimEnd, keep (by simpa using h), List.reverse_reverse]

theorem trim_digits : trim (digits n) = digits n :=
  trim_of_noSpace fun _ mem => isSpace_of_isDigit (isDigit_of_mem mem)

/-- A number that is not too great is read back. -/
theorem count_digits (limited : n ≤ Bounds.unbounded) : count? (digits n) = some n := by
  have nonempty : digits n ≠ [] := Nat.toDigits_ne_nil
  have noPlus (cs : List Char) : digits n ≠ '+' :: cs := fun eq =>
    digit_ne (show '+' ∈ digits n by rw [eq]; simp) (by decide) rfl
  have all : (digits n).all Number.isDigit = true := by
    simpa using fun c mem => isDigit_of_mem mem
  have value : Number.ofDigits (digits n) = n := Number.ofDigits_toDigits n
  have small : n < Nat.pow 2 64 := Nat.lt_of_le_pred (by decide) limited
  unfold count? Number.natural?
  rw [trim_digits]
  split
  · next eq => exact absurd eq (noPlus _)
  · simp [nonempty, all, value, small]

/-- The characters that bounds are written with. -/
def isBoundsChar (c : Char) : Bool := isSpace c || Number.isDigit c || c == '+' || c == ','

theorem natural_chars (h : Number.natural? cs = some n) :
    ∀ c ∈ cs, Number.isDigit c = true ∨ c = '+' := by
  unfold Number.natural? at h
  dsimp only at h
  rw [Option.ite_none_left_eq_some] at h
  obtain ⟨valid, -⟩ := h
  rw [Bool.not_eq_true, Bool.or_eq_false_iff, Bool.not_eq_false', List.all_eq_true] at valid
  obtain ⟨-, digits⟩ := valid
  intro c mem
  split at digits
  · rcases List.mem_cons.1 mem with plus | mem
    · exact .inr plus
    · exact .inl (digits c mem)
  · exact .inl (digits c mem)

theorem trim_subset {c : Char} (mem : c ∈ cs) : isSpace c = true ∨ c ∈ trim cs := by
  have start {cs : List Char} (mem : c ∈ cs) : isSpace c = true ∨ c ∈ cs.dropWhile isSpace := by
    rw [← List.takeWhile_append_dropWhile (p := isSpace) (l := cs), List.mem_append] at mem
    exact mem.imp_left List.mem_takeWhile_imp
  rcases start mem with space | mem
  · exact .inl space
  · rcases start (List.mem_reverse.2 mem) with space | mem
    · exact .inl space
    · exact .inr (List.mem_reverse.2 mem)

theorem count_chars (h : count? cs = some n) :
    ∀ c ∈ cs, isSpace c = true ∨ Number.isDigit c = true ∨ c = '+' := fun _ mem =>
  (trim_subset mem).imp_right (natural_chars h _)

/-! ## Bounds -/

/-- Whether a text between braces writes bounds. -/
inductive WritesBounds : List Char → Bounds → Prop
  | exactly {cs : List Char} {n : Nat} (noComma : ',' ∉ cs) (count : count? cs = some n)
      (pos : 1 ≤ n) : WritesBounds cs ⟨n, n⟩
  | atLeast {low high : List Char} {min : Nat} (noComma : ',' ∉ low) (count : count? low = some min)
      (blank : trim high = []) : WritesBounds (low ++ ',' :: high) ⟨min, Bounds.unbounded⟩
  | between {low high : List Char} {min max : Nat} (noComma : ',' ∉ low)
      (count : count? low = some min) (count' : count? high = some max) (pos : 1 ≤ max)
      (ordered : min ≤ max) : WritesBounds (low ++ ',' :: high) ⟨min, max⟩

theorem exists_comma {d : Char} {tail : List Char} (split : inner.dropWhile (· != ',') = d :: tail) :
    ',' ∉ inner.takeWhile (· != ',') ∧ inner = inner.takeWhile (· != ',') ++ ',' :: tail := by
  refine ⟨fun mem => by simpa using List.mem_takeWhile_imp mem, ?_⟩
  have first := List.head?_dropWhile_not (· != ',') inner
  rw [split] at first
  obtain rfl : d = ',' := by simpa using first
  rw [← split]
  exact List.takeWhile_append_dropWhile.symm

theorem noComma_iff : (∀ c ∈ cs, (c != ',') = true) ↔ ',' ∉ cs := by
  constructor
  · intro h mem
    simpa using h ',' mem
  · intro h c mem
    rw [bne_iff_ne]
    rintro rfl
    exact h mem

theorem valid_iff {found : Bounds} :
    (if found.max < 1 || found.max < found.min then none else some found) = some b
      ↔ found = b ∧ 1 ≤ b.max ∧ b.min ≤ b.max := by
  rw [Option.ite_none_left_eq_some, Bool.or_eq_true, decide_eq_true_eq, decide_eq_true_eq, not_or,
    Nat.not_lt, Nat.not_lt, Option.some_inj]
  constructor
  · rintro ⟨valid, rfl⟩
    exact ⟨rfl, valid⟩
  · rintro ⟨rfl, valid⟩
    exact ⟨valid, rfl⟩

theorem unbounded_pos : 1 ≤ Bounds.unbounded := by decide

theorem writes_of_bounds (h : bounds? inner = some b) : WritesBounds inner b := by
  unfold bounds? at h
  dsimp only at h
  split at h
  · next split =>
    obtain ⟨found, eq, h⟩ := Option.bind_eq_some_iff.1 h
    obtain ⟨n, counted, rfl⟩ := Option.map_eq_some_iff.1 eq
    obtain ⟨rfl, pos, -⟩ := valid_iff.1 h
    exact .exactly (noComma_iff.1 (List.dropWhile_eq_nil_iff.1 split)) counted pos
  · next tail split =>
    obtain ⟨noComma, whole⟩ := exists_comma split
    obtain ⟨min, counted, h⟩ := Option.bind_eq_some_iff.1 h
    rw [whole]
    split at h
    · next blank =>
      obtain ⟨rfl, -⟩ := (@valid_iff b ⟨min, Bounds.unbounded⟩).1 h
      exact .atLeast noComma counted (by simpa using blank)
    · obtain ⟨max, counted', h⟩ := Option.bind_eq_some_iff.1 h
      obtain ⟨rfl, pos, ordered⟩ := (@valid_iff b ⟨min, max⟩).1 h
      exact .between noComma counted counted' pos ordered

theorem WritesBounds.read (h : WritesBounds inner b) : bounds? inner = some b := by
  have after {low high : List Char} (noComma : ',' ∉ low) :
      (low ++ ',' :: high).dropWhile (· != ',') = ',' :: high := by
    rw [List.dropWhile_append_of_pos (noComma_iff.2 noComma)]
    rfl
  have before {low high : List Char} (noComma : ',' ∉ low) :
      (low ++ ',' :: high).takeWhile (· != ',') = low := by
    rw [List.takeWhile_append_of_pos (noComma_iff.2 noComma)]
    simp
  unfold bounds?
  cases h with
  | exactly noComma count pos =>
    rw [List.dropWhile_eq_nil_iff.2 (noComma_iff.2 noComma), count]
    exact valid_iff.2 ⟨rfl, pos, Nat.le_refl _⟩
  | @atLeast low high min noComma count blank =>
    simp only [after noComma, before noComma, count, blank]
    exact valid_iff.2 ⟨rfl, unbounded_pos, count_le count⟩
  | @between low high min max noComma count count' pos ordered =>
    have notBlank : (trim high).isEmpty = false := by
      rw [List.isEmpty_eq_false_iff]
      intro blank
      rw [count?, blank] at count'
      cases count'
    simp only [after noComma, before noComma, count, notBlank, count']
    exact valid_iff.2 ⟨rfl, pos, ordered⟩

theorem bounds_eq_some : bounds? inner = some b ↔ WritesBounds inner b :=
  ⟨writes_of_bounds, WritesBounds.read⟩

theorem sound_of_bounds (h : bounds? inner = some b) : b.Sound := by
  cases bounds_eq_some.1 h with
  | exactly noComma count pos => exact ⟨pos, Nat.le_refl _, count_le count⟩
  | atLeast noComma count blank => exact ⟨unbounded_pos, count_le count, Nat.le_refl _⟩
  | between noComma count count' pos ordered => exact ⟨pos, ordered, count_le count'⟩

theorem bounds_chars (h : bounds? inner = some b) : ∀ c ∈ inner, isBoundsChar c = true := by
  have ofCount {cs : List Char} {n : Nat} (h : count? cs = some n) :
      ∀ c ∈ cs, isBoundsChar c = true := fun c mem => by
    rcases count_chars h c mem with space | digit | rfl
    · simp [isBoundsChar, space]
    · simp [isBoundsChar, digit]
    · rfl
  cases bounds_eq_some.1 h with
  | exactly noComma count pos => exact ofCount count
  | @atLeast low high min noComma count blank =>
    refine List.forall_mem_append.2 ⟨ofCount count, List.forall_mem_cons.2 ⟨rfl, fun c mem => ?_⟩⟩
    rcases trim_subset mem with space | mem
    · simp [isBoundsChar, space]
    · rw [blank] at mem
      cases mem
  | between noComma count count' pos ordered =>
    exact List.forall_mem_append.2 ⟨ofCount count, List.forall_mem_cons.2 ⟨rfl, ofCount count'⟩⟩

theorem sound_once : Bounds.Sound .once := ⟨by decide, by decide, by decide⟩

/-- What a quantifier writes are sound bounds. -/
theorem Word.sound {options : Options} {w : List Char} (h : Word options w (.bounds b)) : b.Sound := by
  cases h with
  | optional => exact ⟨by decide, by decide, by decide⟩
  | star => exact ⟨by decide, by decide, by decide⟩
  | plus => exact ⟨by decide, by decide, by decide⟩
  | braces within writes => exact sound_of_bounds writes

/-! ## White space in bounds -/

theorem filter_dropWhile (cs : List Char) :
    (cs.dropWhile isSpace).filter (!isSpace ·) = cs.filter (!isSpace ·) := by
  induction cs with
  | nil => rfl
  | cons c cs ih =>
    by_cases space : isSpace c = true
    · rw [List.dropWhile_cons_of_pos space, List.filter_cons_of_neg (by simp [space]), ih]
    · rw [List.dropWhile_cons_of_neg space]

theorem filter_trim (cs : List Char) : (trim cs).filter (!isSpace ·) = cs.filter (!isSpace ·) := by
  rw [trim, trimEnd, List.filter_reverse, filter_dropWhile, ← List.filter_reverse,
    List.reverse_reverse, trimStart, filter_dropWhile]

theorem count_filter (h : count? cs = some n) : count? (cs.filter (!isSpace ·)) = some n := by
  have noSpace : ∀ c ∈ trim cs, isSpace c = false := fun c mem => by
    rcases natural_chars h c mem with digit | rfl
    · exact isSpace_of_isDigit digit
    · decide
  have same : cs.filter (!isSpace ·) = trim cs := by
    rw [← filter_trim, List.filter_eq_self]
    simpa using noSpace
  unfold count?
  rw [same, trim_of_noSpace noSpace]
  exact h

/-- White space makes no difference to the bounds that are written. -/
theorem bounds_filter (h : bounds? inner = some b) :
    bounds? (inner.filter (!isSpace ·)) = some b := by
  have stays {cs : List Char} (noComma : ',' ∉ cs) : ',' ∉ cs.filter (!isSpace ·) := fun mem =>
    noComma (List.mem_of_mem_filter mem)
  have comma {low high : List Char} : (low ++ ',' :: high).filter (!isSpace ·)
      = low.filter (!isSpace ·) ++ ',' :: high.filter (!isSpace ·) := by
    rw [List.filter_append, List.filter_cons_of_pos (by decide)]
  cases bounds_eq_some.1 h with
  | exactly noComma count pos => exact (WritesBounds.exactly (stays noComma) (count_filter count) pos).read
  | @atLeast low high min noComma count blank =>
    have blank' : trim (high.filter (!isSpace ·)) = [] := by
      rw [← filter_trim high, blank]
      rfl
    rw [comma]
    exact (WritesBounds.atLeast (stays noComma) (count_filter count) blank').read
  | between noComma count count' pos ordered =>
    rw [comma]
    exact (WritesBounds.between (stays noComma) (count_filter count) (count_filter count') pos
      ordered).read

/-! ## Printing -/

theorem noComma_digits : ',' ∉ digits n := fun mem => digit_ne mem (by decide) rfl

theorem noBrace_digits : '}' ∉ digits n := fun mem => digit_ne mem (by decide) rfl

/-- Bounds that can be written are printed as a quantifier that writes them. -/
theorem word_printBounds {options : Options} (sound : b.Sound) (notOnce : b ≠ .once) :
    Word options b.print.toList (.bounds b) := by
  obtain ⟨min, max⟩ := b
  unfold Bounds.print
  rw [if_neg (by simpa using notOnce)]
  split
  · next same =>
    rw [beq_iff_eq] at same
    rw [same]
    exact .optional
  · split
    · next same =>
      rw [beq_iff_eq] at same
      rw [same]
      exact .star
    · split
      · next same =>
        rw [beq_iff_eq] at same
        rw [same]
        exact .plus
      · split
        · next noLimit =>
          obtain rfl : max = Bounds.unbounded := by simpa using noLimit
          have text : ("\x7b" ++ toString min ++ ",\x7d").toList
              = '{' :: (digits min ++ [','] ++ ['}']) := by
            simp [digits]
          rw [text]
          exact .braces (by simp [noBrace_digits])
            (WritesBounds.atLeast noComma_digits (count_digits sound.ordered) rfl).read
        · split
          · next same =>
            obtain rfl : min = max := by simpa using same
            have text : ("\x7b" ++ toString min ++ "\x7d").toList
                = '{' :: (digits min ++ ['}']) := by
              simp [digits]
            rw [text]
            exact .braces noBrace_digits
              (WritesBounds.exactly noComma_digits (count_digits sound.limited) sound.pos).read
          · have text : ("\x7b" ++ toString min ++ "," ++ toString max ++ "\x7d").toList
                = '{' :: (digits min ++ ',' :: digits max ++ ['}']) := by
              simp [digits]
            rw [text]
            have limited : min ≤ Bounds.unbounded := Nat.le_trans sound.ordered sound.limited
            exact .braces (by simp [noBrace_digits]) (WritesBounds.between noComma_digits
              (count_digits limited) (count_digits sound.limited) sound.pos sound.ordered).read

end

end Pattern

end SpanSearch
