import Mathlib.Data.List.TakeWhile
import SpanSearch.Proofs.Expression.Derived
import SpanSearch.Proofs.Expression.Scanning

/-! # Parentheses of expressions

The parentheses among the lexemes of an expression close one another. All other lexemes but quoted
texts are written with characters that are neither parentheses nor quotes.
-/

namespace SpanSearch.Expression

/-! ## Lexemes -/

/-- Whether lexemes close the parentheses that they open, and `depth` others. -/
def Nests : Nat → List Lexeme → Prop
  | depth, [] => depth = 0
  | depth, .openParen :: ls => Nests (depth + 1) ls
  | depth, .closeParen :: ls => 0 < depth ∧ Nests (depth - 1) ls
  | depth, _ :: ls => Nests depth ls

/-- Whether lexemes close just the parentheses that they open, so that they make no difference where
they stand. -/
def Closed (w : List Lexeme) : Prop := ∀ depth rest, Nests depth rest → Nests depth (w ++ rest)

section

variable {r : Reading α} {part : Part} {mark l : Lexeme} {v w : List Lexeme}

theorem nests_other {depth : Nat} {ls : List Lexeme} (opening : l ≠ .openParen)
    (closing : l ≠ .closeParen) : Nests depth (l :: ls) ↔ Nests depth ls := by
  cases l with
  | openParen => exact absurd rfl opening
  | closeParen => exact absurd rfl closing
  | _ => exact Iff.rfl

theorem Closed.append (hv : Closed v) (hw : Closed w) : Closed (v ++ w) := by
  intro depth rest nests
  rw [List.append_assoc]
  exact hv depth _ (hw depth rest nests)

theorem Closed.cons (closed : Closed w) (opening : l ≠ .openParen) (closing : l ≠ .closeParen) :
    Closed (l :: w) := fun depth rest nests => (nests_other opening closing).2 (closed depth rest nests)

theorem closed_nil : Closed [] := fun _ _ nests => nests

theorem Closed.group (closed : Closed w) : Closed (.openParen :: (w ++ [.closeParen])) := by
  intro depth rest nests
  rw [List.cons_append, List.append_assoc]
  exact closed (depth + 1) _ ⟨Nat.succ_pos depth, nests⟩

theorem closed_preceded {items : List (List Lexeme × α)} (opening : mark ≠ .openParen)
    (closing : mark ≠ .closeParen) (each : ∀ item ∈ items, Closed item.1) :
    Closed (preceded mark items) := by
  induction items with
  | nil => exact closed_nil
  | cons item items ih =>
    obtain ⟨first, others⟩ := List.forall_mem_cons.1 each
    exact (first.cons opening closing).append (ih others)

theorem closed_separated {items : List (List Lexeme × α)} (opening : mark ≠ .openParen)
    (closing : mark ≠ .closeParen) (each : ∀ item ∈ items, Closed item.1) :
    Closed (separated mark items) := by
  cases items with
  | nil => exact closed_nil
  | cons item items =>
    obtain ⟨first, others⟩ := List.forall_mem_cons.1 each
    exact first.append (closed_preceded opening closing others)

/-- What the grammar derives closes just the parentheses that it opens. -/
theorem Reading.Derives.closed {x : α} (derives : r.Derives part w x) : Closed w := by
  induction derives with
  | either _ _ first others => exact first.append (closed_preceded nofun nofun others)
  | both _ _ first others => exact first.append (closed_preceded nofun nofun others)
  | alone _ only => exact only
  | compare op _ _ left right => exact left.append (right.cons nofun nofun)
  | literal | number | attr | var => exact closed_nil.cons nofun nofun
  | group _ inner => exact inner.group
  | call _ _ _ arguments =>
    have closed := closed_separated (show Lexeme.comma ≠ .openParen from nofun) nofun arguments
    exact closed.group.cons nofun nofun

/-- The lexemes of an expression. -/
theorem exists_lexemes {source : String} {body : Term} (parsed : Term.parse source = .ok body) :
    ∃ ls, Lexeme.scan 0 source.toList = .ok ls ∧ Nests 0 (Lexemes.bare ls) := by
  obtain ⟨ls, scanned, parsed⟩ := bind_eq_ok.1 parsed
  obtain ⟨⟨term, rest⟩, taken, ended⟩ := bind_eq_ok.1 parsed
  cases rest with
  | cons l rest => cases ended
  | nil =>
    obtain ⟨ls', rfl, derives⟩ := (sound _ _).either taken
    refine ⟨_, scanned, ?_⟩
    rw [Lexemes.bare_append]
    exact derives.closed 0 _ rfl

end

/-! ## Characters -/

/-- Whether a character is no parenthesis and no quote. -/
def Ordinary (c : Char) : Prop := c ≠ '(' ∧ c ≠ ')' ∧ c ≠ '\'' ∧ c ≠ '"'
deriving Decidable

/-- How a lexeme is written that starts with `c`, and what is left. -/
inductive Lexeme.Taken (c : Char) (cs : List Char) : Lexeme → List Char → Prop
  | opening (same : c = '(') : Taken c cs .openParen cs
  | closing (same : c = ')') : Taken c cs .closeParen cs
  | literal {text rest : List Char} (isQuote : c = '\'' ∨ c = '"')
      (read : takeText c cs = some (text, rest)) : Taken c cs (.literal (String.ofList text)) rest
  | other {lexeme : Lexeme} {w rest : List Char} (whole : c :: cs = w ++ rest)
      (ordinary : ∀ d ∈ w, Ordinary d) (notOpening : lexeme ≠ .openParen)
      (notClosing : lexeme ≠ .closeParen) : Taken c cs lexeme rest

section

variable {c : Char} {cs rest : List Char} {lexeme : Lexeme} {p : Char → Bool}

theorem ordinary_of_holds (holds : p c = true) (opening : p '(' = false) (closing : p ')' = false)
    (single : p '\'' = false) (double : p '"' = false) : Ordinary c := by
  refine ⟨?_, ?_, ?_, ?_⟩
  all_goals
    rintro rfl
    simp_all

theorem ordinary_of_isSpace (space : Unicode.isSpace c = true) : Ordinary c :=
  ordinary_of_holds space (by decide) (by decide) (by decide) (by decide)

theorem ordinary_of_isNameChar (holds : isNameChar c = true) : Ordinary c :=
  ordinary_of_holds holds (by decide) (by decide) (by decide) (by decide)

theorem ordinary_takeWhile (p : Char → Bool) (cs : List Char) (opening : p '(' = false)
    (closing : p ')' = false) (single : p '\'' = false) (double : p '"' = false) :
    ∀ d ∈ cs.takeWhile p, Ordinary d := fun _ mem =>
  ordinary_of_holds (List.mem_takeWhile_imp mem) opening closing single double

namespace Lexeme

/-- A lexeme of a character and those after it for which `p` holds. -/
theorem taken_while (first : Ordinary c) (others : ∀ d ∈ cs.takeWhile p, Ordinary d)
    (opening : lexeme ≠ .openParen) (closing : lexeme ≠ .closeParen) :
    Taken c cs lexeme (cs.dropWhile p) := by
  refine .other (w := c :: cs.takeWhile p) ?_ (List.forall_mem_cons.2 ⟨first, others⟩) opening
    closing
  rw [List.cons_append, List.takeWhile_append_dropWhile]

/-- A lexeme of one character. -/
theorem taken_single (first : Ordinary c) (opening : lexeme ≠ .openParen)
    (closing : lexeme ≠ .closeParen) : Taken c cs lexeme cs :=
  .other (w := [c]) rfl (List.forall_mem_singleton.2 first) opening closing

/-- A lexeme of a character and the equals sign after it. -/
theorem taken_equal (first : Ordinary c) (opening : lexeme ≠ .openParen)
    (closing : lexeme ≠ .closeParen) : Taken c ('=' :: rest) lexeme rest := by
  refine .other (w := [c, '=']) rfl (List.forall_mem_cons.2 ⟨first, ?_⟩) opening closing
  exact List.forall_mem_singleton.2 (by simp [Ordinary])

/-- How the lexeme that is taken is written. -/
theorem taken_of_take (read : take c cs = .ok (lexeme, rest)) : Taken c cs lexeme rest := by
  have names := ordinary_takeWhile isNameChar cs (by decide) (by decide) (by decide) (by decide)
  have numbers := ordinary_takeWhile isNumberChar cs (by decide) (by decide) (by decide)
    (by decide)
  unfold take at read
  dsimp only at read
  split at read
  · cases read
    exact .opening rfl
  · cases read
    exact .closing rfl
  · cases read
    exact taken_single (by decide) nofun nofun
  · cases read
    exact taken_single (by decide) nofun nofun
  · split at read
    · cases read
      exact taken_equal (by decide) nofun nofun
    · cases read
  · split at read
    · cases read
      exact taken_equal (by decide) nofun nofun
    · cases read
      exact taken_single (by decide) nofun nofun
  · split at read
    · cases read
      exact taken_equal (by decide) nofun nofun
    · cases read
      exact taken_single (by decide) nofun nofun
  · split at read
    · cases read
    · cases read
      exact taken_while (by decide) names nofun nofun
  · split at read
    · cases read
    · cases read
      exact taken_while (by decide) names nofun nofun
  split at read
  · next isQuote =>
    split at read
    · next text after found =>
      cases read
      exact .literal (by simpa using isQuote) found
    · cases read
  split at read
  · next digit =>
    have first := ordinary_of_holds digit (by decide) (by decide) (by decide) (by decide)
    split at read
    · cases read
      exact taken_while first numbers nofun nofun
    · cases read
  split at read
  · next starts =>
    have first := ordinary_of_isNameChar (Cursor.isNameChar_of_starts starts)
    cases read
    exact taken_while first names nofun nofun
  · cases read

end Lexeme

end

end SpanSearch.Expression
