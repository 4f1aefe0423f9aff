import SpanSearch.Proofs.Pattern.Blank
import SpanSearch.Tokenizer

/-! # The shapes of tokens

A token of the standard tokenizer is a number with decimal marks, a word, or a single character. How
far it extends depends on the text after it, of which two characters tell whether it goes on. So a
text that is cut off after a token, or goes on with white space there, is cut in the same way.
-/

namespace SpanSearch.Cut

open Unicode

/-! ## Runs -/

section

variable {part link : Char → Bool} {c : Char} {cs run after : List Char}

/-- Whether a run goes on with this text. -/
def goesOn (part link : Char → Bool) : List Char → Bool
  | [] => false
  | c :: rest => part c || (link c && rest.head?.any part)

/-- Whether a text is a run up to its end, after a part before it. -/
def Linked (part link : Char → Bool) : List Char → Prop
  | [] => True
  | c :: rest => goesOn part link (c :: rest) = true ∧ Linked part link rest

theorem takeLinked_of_goesOn (goes : goesOn part link (c :: cs) = true) :
    takeLinked part link (c :: cs)
      = (c :: (takeLinked part link cs).1, (takeLinked part link cs).2) := by
  rw [takeLinked]
  exact if_pos goes

theorem takeLinked_of_not_goesOn (stops : goesOn part link cs = false) :
    takeLinked part link cs = ([], cs) := by
  cases cs with
  | nil => rfl
  | cons c cs =>
    rw [takeLinked]
    exact if_neg (Bool.eq_false_iff.1 stops)

theorem append_takeLinked (part link : Char → Bool) (cs : List Char) :
    (takeLinked part link cs).1 ++ (takeLinked part link cs).2 = cs := by
  induction cs with
  | nil => rfl
  | cons c cs ih =>
    cases goes : goesOn part link (c :: cs) with
    | true => rw [takeLinked_of_goesOn goes, List.cons_append, ih]
    | false => rw [takeLinked_of_not_goesOn goes, List.nil_append]

theorem goesOn_append (goes : goesOn part link cs = true) (after : List Char) :
    goesOn part link (cs ++ after) = true := by
  cases cs with
  | nil => cases goes
  | cons c cs =>
    cases cs with
    | nil =>
      obtain isPart : part c = true := by simpa [goesOn] using goes
      simp [goesOn, isPart]
    | cons d cs => exact goes

/-- Whether a run goes on with a text does not depend on what stands behind white space. -/
theorem goesOn_space {s : Char} (part_space : part s = false) (link_space : link s = false)
    (cs after : List Char) : goesOn part link (cs ++ s :: after) = goesOn part link cs := by
  match cs with
  | [] => simp [goesOn, part_space, link_space]
  | [c] => simp [goesOn, part_space]
  | _ :: _ :: _ => rfl

/-- What is taken is a run up to its end. -/
theorem linked_takeLinked (part link : Char → Bool) (cs : List Char) :
    Linked part link (takeLinked part link cs).1 := by
  induction cs with
  | nil => trivial
  | cons c cs ih =>
    cases goes : goesOn part link (c :: cs) with
    | false =>
      rw [takeLinked_of_not_goesOn goes]
      trivial
    | true =>
      rw [takeLinked_of_goesOn goes]
      refine ⟨?_, ih⟩
      cases cs with
      | nil => exact goes
      | cons d cs =>
        -- the character after a link is a part, so it is taken as well
        cases isPart : part d with
        | true =>
          rw [takeLinked_of_goesOn (by simp [goesOn, isPart])]
          exact goes
        | false =>
          obtain isPart' : part c = true := by simpa [goesOn, isPart] using goes
          simp [goesOn, isPart']

theorem Linked.takeLinked_append (linked : Linked part link run) (after : List Char) :
    takeLinked part link (run ++ after)
      = (run ++ (takeLinked part link after).1, (takeLinked part link after).2) := by
  induction run with
  | nil => rfl
  | cons c run ih =>
    obtain ⟨goes, linked⟩ := linked
    have goes' := goesOn_append goes after
    rw [List.cons_append] at goes' ⊢
    rw [takeLinked_of_goesOn goes', ih linked]
    rfl

/-- A run is taken up to its end just when it does not go on after that. -/
theorem Linked.takeLinked_eq_iff (linked : Linked part link run) (after : List Char) :
    takeLinked part link (run ++ after) = (run, after) ↔ goesOn part link after = false := by
  rw [linked.takeLinked_append]
  cases goes : goesOn part link after with
  | false => simp [takeLinked_of_not_goesOn goes]
  | true =>
    cases after with
    | nil => cases goes
    | cons c after => simp [takeLinked_of_goesOn goes]

theorem Linked.chars (linked : Linked part link run) :
    ∀ c ∈ run, part c = true ∨ link c = true := by
  induction run with
  | nil => simp
  | cons c run ih =>
    obtain ⟨goes, linked⟩ := linked
    refine List.forall_mem_cons.2 ⟨?_, ih linked⟩
    rcases Bool.or_eq_true_iff.1 goes with isPart | isLink
    · exact .inl isPart
    · exact .inr (Bool.and_eq_true_iff.1 isLink).1

end

/-! ## Characters -/

section

variable {c : Char}

theorem isWordPart_of_isNumber (h : isNumber c = true) : isWordPart c = true := by
  simp [isWordPart, h]

/-- Decimal marks are no characters of words. -/
theorem isDecimalMark_eq_false (h : isWordPart c = true ∨ isWordLink c = true) :
    isDecimalMark c = false := by
  by_contra mark
  rw [Bool.not_eq_false, isDecimalMark, Bool.or_eq_true, beq_iff_eq, beq_iff_eq] at mark
  obtain ⟨notPart, notLink⟩ : isWordPart c = false ∧ isWordLink c = false := by
    rcases mark with rfl | rfl <;> decide +kernel
  simp [notPart, notLink] at h

/-- White space stands in no token and goes on with none. -/
theorem classes_of_isSpace (h : isSpace c = true) :
    isWordPart c = false ∧ isWordLink c = false ∧ isNumber c = false ∧ isDecimalMark c = false := by
  have all : ∀ n ∈ Pattern.spaceCodes, isWordPart (Char.ofNat n) = false
      ∧ isWordLink (Char.ofNat n) = false ∧ isNumber (Char.ofNat n) = false
      ∧ isDecimalMark (Char.ofNat n) = false := by
    decide +kernel
  have := all c.toNat (Pattern.mem_spaceCodes h)
  rwa [Char.ofNat_toNat] at this

end

/-! ## Tokens -/

/-- Whether a text is a token: a number with decimal marks, a word, or any other character. -/
inductive IsToken : List Char → Prop
  | number {c : Char} {run : List Char} (first : isNumber c = true)
      (linked : Linked isNumber isDecimalMark run) (mark : run.any isDecimalMark = true) :
      IsToken (c :: run)
  | word {c : Char} {run : List Char} (first : isWordPart c = true)
      (linked : Linked isWordPart isWordLink run) : IsToken (c :: run)
  | single {c : Char} (other : isWordPart c = false) (solid : isSpace c = false) : IsToken [c]

/-- Whether a text is a run with a part at its start. -/
def IsRun (part link : Char → Bool) : List Char → Prop
  | [] => False
  | c :: run => part c = true ∧ Linked part link run

/-- Whether a token would take more of the text after it: as a word, or as a number. -/
def Extends (token after : List Char) : Prop :=
  (IsRun isWordPart isWordLink token ∧ goesOn isWordPart isWordLink after = true)
    ∨ (IsRun isNumber isDecimalMark token ∧ goesOn isNumber isDecimalMark after = true)

section

variable {c : Char} {cs run token after : List Char}

theorem Extends.append (extends_ : Extends token cs) (after : List Char) :
    Extends token (cs ++ after) :=
  extends_.imp (fun ⟨isRun, goes⟩ => ⟨isRun, goesOn_append goes after⟩)
    fun ⟨isRun, goes⟩ => ⟨isRun, goesOn_append goes after⟩

theorem not_extends_nil : ¬ Extends token [] := by
  rintro (⟨-, goes⟩ | ⟨-, goes⟩) <;> cases goes

/-- Behind white space, a text makes no difference to a token. -/
theorem extends_space {s : Char} (space : isSpace s = true) :
    Extends token (cs ++ s :: after) ↔ Extends token cs := by
  obtain ⟨notPart, notLink, notNumber, notMark⟩ := classes_of_isSpace space
  rw [Extends, goesOn_space notPart notLink, goesOn_space notNumber notMark, ← Extends]

/-- The standard rule prefers a number with a mark to a word, and a word to a single character. -/
theorem takeStandard_cases (c : Char) (cs : List Char) :
    (isNumber c = true ∧ (takeLinked isNumber isDecimalMark cs).1.any isDecimalMark = true
        ∧ takeStandard c cs = takeLinked isNumber isDecimalMark cs)
      ∨ (isWordPart c = true
        ∧ ¬ (isNumber c = true
          ∧ (takeLinked isNumber isDecimalMark cs).1.any isDecimalMark = true)
        ∧ takeStandard c cs = takeLinked isWordPart isWordLink cs)
      ∨ (isWordPart c = false ∧ takeStandard c cs = ([], cs)) := by
  unfold takeStandard
  dsimp only
  split
  · next number =>
    obtain ⟨first, mark⟩ := Bool.and_eq_true_iff.1 number
    exact .inl ⟨first, mark, rfl⟩
  · next noNumber =>
    rw [Bool.and_eq_true_iff] at noNumber
    split
    · next first => exact .inr (.inl ⟨first, noNumber, rfl⟩)
    · next other => exact .inr (.inr ⟨Bool.eq_false_iff.2 other, rfl⟩)

theorem append_takeStandard (c : Char) (cs : List Char) :
    (takeStandard c cs).1 ++ (takeStandard c cs).2 = cs := by
  obtain ⟨-, -, eq⟩ | ⟨-, -, eq⟩ | ⟨-, eq⟩ := takeStandard_cases c cs
  · rw [eq, append_takeLinked]
  · rw [eq, append_takeLinked]
  · rw [eq, List.nil_append]

/-- What the standard rule takes is a token. -/
theorem isToken_takeStandard (solid : isSpace c = false) (cs : List Char) :
    IsToken (c :: (takeStandard c cs).1) := by
  obtain ⟨first, mark, eq⟩ | ⟨first, -, eq⟩ | ⟨other, eq⟩ := takeStandard_cases c cs
  · rw [eq]
    exact .number first (linked_takeLinked ..) mark
  · rw [eq]
    exact .word first (linked_takeLinked ..)
  · rw [eq]
    exact .single other solid

/-- If a number with a mark reaches beyond a text without marks, the mark is behind that text. -/
theorem linked_of_mark (plain : ∀ c ∈ run, isDecimalMark c = false)
    (mark : (takeLinked isNumber isDecimalMark (run ++ after)).1.any isDecimalMark = true) :
    Linked isNumber isDecimalMark run ∧ goesOn isNumber isDecimalMark after = true := by
  induction run with
  | nil =>
    refine ⟨trivial, ?_⟩
    by_contra stops
    rw [List.nil_append, takeLinked_of_not_goesOn (Bool.eq_false_iff.2 stops)] at mark
    cases mark
  | cons c run ih =>
    obtain ⟨noMark, plain⟩ := List.forall_mem_cons.1 plain
    cases goes : goesOn isNumber isDecimalMark (c :: (run ++ after)) with
    | false =>
      rw [List.cons_append, takeLinked_of_not_goesOn goes] at mark
      cases mark
    | true =>
      rw [List.cons_append, takeLinked_of_goesOn goes, List.any_cons, noMark, Bool.false_or] at mark
      obtain ⟨linked, later⟩ := ih plain mark
      obtain isPart : isNumber c = true := by simpa [goesOn, noMark] using goes
      exact ⟨⟨by simp [goesOn, isPart], linked⟩, later⟩

/-- A number that goes on at its end goes on as a word, or with a decimal mark. -/
theorem goesOn_word_or_mark (linked : Linked isNumber isDecimalMark run)
    (goes : goesOn isNumber isDecimalMark after = true) :
    goesOn isWordPart isWordLink after = true
      ∨ (takeLinked isNumber isDecimalMark (run ++ after)).1.any isDecimalMark = true := by
  cases after with
  | nil => cases goes
  | cons d after =>
    rcases Bool.or_eq_true_iff.1 goes with isPart | isLink
    · left
      simp [goesOn, isWordPart_of_isNumber isPart]
    · right
      obtain ⟨isMark, -⟩ := Bool.and_eq_true_iff.1 isLink
      rw [linked.takeLinked_append, takeLinked_of_goesOn goes]
      simp [isMark]

/-- A number with a mark is no word. -/
theorem not_isRun_word (mark : run.any isDecimalMark = true) :
    ¬ IsRun isWordPart isWordLink (c :: run) := by
  rintro ⟨-, word⟩
  obtain ⟨d, mem, isMark⟩ := List.any_eq_true.1 mark
  rw [isDecimalMark_eq_false (word.chars d mem)] at isMark
  cases isMark

/-- The standard rule takes a token up to its end just when the token does not extend into the text
after it. -/
theorem IsToken.takeStandard_eq_iff (isToken : IsToken (c :: run)) (after : List Char) :
    takeStandard c (run ++ after) = (run, after) ↔ ¬ Extends (c :: run) after := by
  cases isToken with
  | number first linked mark =>
    have mark' : (takeLinked isNumber isDecimalMark (run ++ after)).1.any isDecimalMark = true := by
      rw [linked.takeLinked_append, List.any_append, mark, Bool.true_or]
    have taken :
        takeStandard c (run ++ after) = takeLinked isNumber isDecimalMark (run ++ after) := by
      simp [takeStandard, first, mark']
    rw [taken, linked.takeLinked_eq_iff, ← Bool.not_eq_true, not_iff_not]
    refine ⟨fun goes => .inr ⟨⟨first, linked⟩, goes⟩, ?_⟩
    rintro (⟨word, -⟩ | ⟨-, goes⟩)
    · exact absurd word (not_isRun_word mark)
    · exact goes
  | word first linked =>
    have plain (d : Char) (mem : d ∈ run) : isDecimalMark d = false :=
      isDecimalMark_eq_false (linked.chars d mem)
    obtain ⟨number, mark, eq⟩ | ⟨-, noNumber, eq⟩ | ⟨other, -⟩ :=
      takeStandard_cases c (run ++ after)
    · obtain ⟨digits, goes⟩ := linked_of_mark plain mark
      have extends_ : Extends (c :: run) after := .inr ⟨⟨number, digits⟩, goes⟩
      rw [eq, digits.takeLinked_eq_iff, goes]
      simp [extends_]
    · rw [eq, linked.takeLinked_eq_iff, ← Bool.not_eq_true, not_iff_not]
      refine ⟨fun goes => .inl ⟨⟨first, linked⟩, goes⟩, ?_⟩
      rintro (⟨-, goes⟩ | ⟨⟨number, digits⟩, goes⟩)
      · exact goes
      · exact (goesOn_word_or_mark digits goes).resolve_right fun mark => noNumber ⟨number, mark⟩
    · rw [first] at other
      cases other
  | single other solid =>
    have noNumber : isNumber c = false := by
      by_contra number
      rw [isWordPart_of_isNumber (by simpa using number)] at other
      cases other
    simp [takeStandard, noNumber, other, Extends, IsRun]

theorem IsRun.chars {part link : Char → Bool} (isRun : IsRun part link token) :
    ∀ c ∈ token, part c = true ∨ link c = true := by
  cases token with
  | nil => exact isRun.elim
  | cons c run => exact List.forall_mem_cons.2 ⟨.inl isRun.1, isRun.2.chars⟩

/-- No character of a token is white space. -/
theorem IsToken.solid (isToken : IsToken token) : ∀ c ∈ token, isSpace c = false := by
  intro c mem
  by_contra space
  obtain ⟨notPart, notLink, notNumber, notMark⟩ := classes_of_isSpace (by simpa using space)
  cases isToken with
  | @number d run first linked =>
    have isRun : IsRun isNumber isDecimalMark (d :: run) := ⟨first, linked⟩
    simpa [notNumber, notMark] using isRun.chars c mem
  | @word d run first linked =>
    have isRun : IsRun isWordPart isWordLink (d :: run) := ⟨first, linked⟩
    simpa [notPart, notLink] using isRun.chars c mem
  | single other solid =>
    obtain rfl := List.mem_singleton.1 mem
    exact space solid

theorem IsToken.ne_nil (isToken : IsToken token) : token ≠ [] := by
  cases isToken <;> exact List.cons_ne_nil _ _

end

end SpanSearch.Cut
