import Mathlib
import SpanSearch.Proofs.Expression.Ending
import SpanSearch.Proofs.Pattern.Quantifiers

/-! # Reading what is printed after an element

Setters and quantifiers are read back from what is printed for them. The text after a setter is taken
for more of it just if the setter has no brackets, and the text goes on with its name or opens some.
The text after a quantifier is refused just if it is another one.
-/

namespace SpanSearch

open Pattern Unicode

/-- Whether an engine tells of each expression the text that it was parsed from. -/
def Expression.Engine.KeepsText (engine : Expression.Engine) : Prop :=
  ∀ text e, engine text = .ok e → e.source = text

theorem Expression.keepsText_standard : Engine.KeepsText standard :=
  fun _ _ read => source_of_standard read

/-- Whether a setter is read back from its own text, up to its end and no further, just if brackets
end it or the text after it cannot be taken for a part of it. -/
def Setter.ReadBack (engine : Expression.Engine) (s : Setter) : Prop :=
  ∃ text, printSetter s = '@' :: text
    ∧ ∀ rest, readSetter engine (text ++ rest) = .ok (s, rest)
        ↔ (s.policy = .join none → Boundary rest)

/-- Whether a text, white space at its start left aside, does not start with a quantifier. -/
def Pattern.NoQuantifier (cs : List Char) : Prop :=
  (trimStart cs).head?.any isQuantifierMark = false

/-- Whether bounds are read back from their quantifier, with the white space after it, just if no
other quantifier follows. -/
def Bounds.ReadBack (b : Bounds) : Prop :=
  ∀ rest, readQuantifier (b.print.toList ++ rest) = .ok (b, trimStart rest) ↔ NoQuantifier rest

namespace Pattern

section

variable {engine : Expression.Engine} {options : Options} {left : Nat} {cs rest w : List Char}
  {s : Setter} {b : Bounds}

/-! ## Setters -/

theorem printSetter_scope (keeps : engine.KeepsText) {scope : List Char}
    (inScope : Scope engine scope s.expression) :
    printSetter s = '@' :: (scope ++ (s.name.toList ++ printPolicy s.policy)) := by
  obtain ⟨name, e, policy⟩ := s
  cases inScope with
  | none => rfl
  | some balanced read => simp [printSetter, keeps _ _ read]

/-- There is one way to write a setter. -/
theorem Word.eq_printSetter (keeps : options.engine.KeepsText) (word : Word options w (.setter s)) :
    w = printSetter s := by
  cases word with
  | setter inScope isName writable =>
    rw [printSetter_scope keeps inScope, String.toList_ofList]

/-- A setter that is read from somewhere is read back from its own text. -/
theorem readBack_of_readSetter (keeps : engine.KeepsText)
    (reads : readSetter engine cs = .ok (s, rest)) : s.ReadBack engine := by
  obtain ⟨scope, name, inScope, isName, writable, -, named, -⟩ := setter_of_read reads
  refine ⟨_, printSetter_scope keeps inScope, fun rest => ⟨fun reads => ?_, ?_⟩⟩
  · obtain ⟨-, -, -, -, -, boundary, -⟩ := setter_of_read reads
    exact boundary
  · intro boundary
    obtain ⟨_, e, policy⟩ := s
    obtain rfl : _ = String.ofList name := named
    simp only [String.toList_ofList, List.append_assoc]
    exact readSetter_written inScope isName writable boundary

/-- More of a name is taken for a part of the setter. -/
example : readSetter Expression.standard ("x".toList ++ "y<a>".toList)
    = .ok (⟨"xy", none, .join none⟩, "<a>".toList) := by
  cbv

/-! ## Quantifiers -/

theorem Word.readBounds (h : Word options w (.bounds b)) (rest : List Char) :
    ∃ c cs, w ++ rest = c :: cs ∧ isSpace c = false ∧ isQuantifierMark c = true
      ∧ readBounds c cs = .ok (b, rest) := by
  cases h with
  | optional => exact ⟨'?', rest, rfl, by decide, rfl, rfl⟩
  | star => exact ⟨'*', rest, rfl, by decide, rfl, rfl⟩
  | plus => exact ⟨'+', rest, rfl, by decide, rfl, rfl⟩
  | @braces inner _ within writes =>
    exact ⟨'{', inner ++ '}' :: rest, by simp, by decide, rfl, readBounds_braces within writes⟩

/-- Bounds that are read can be written, and what is left starts with no other quantifier. -/
theorem sound_of_readQuantifier (reads : readQuantifier cs = .ok (b, rest)) :
    b.Sound ∧ rest.head?.any isQuantifierMark = false := by
  obtain ⟨single, ⟨rfl, -⟩ | ⟨c, tail, left, -, mark, read, -⟩⟩ := readQuantifier_eq_ok.1 reads
  · exact ⟨sound_once, single⟩
  · -- quantifiers are the same with all options
    obtain ⟨w, -, word⟩ : ∃ w, c :: tail = w ++ left
        ∧ Word ⟨.atSpace, Expression.standard, none⟩ w (.bounds b) := bounds_of_read mark read
    exact ⟨word.sound, single⟩

/-- Bounds that can be written are read from their quantifier. -/
theorem readQuantifier_print (sound : b.Sound) (single : NoQuantifier rest) :
    readQuantifier (b.print.toList ++ rest) = .ok (b, trimStart rest) := by
  refine readQuantifier_eq_ok.2 ⟨single, ?_⟩
  by_cases once : b = .once
  · -- nothing is printed, and what follows is left
    subst once
    exact .inl ⟨rfl, rfl⟩
  · have word : Word ⟨.atSpace, Expression.standard, none⟩ b.print.toList (.bounds b) :=
      word_printBounds sound once
    obtain ⟨c, cs, whole, noSpace, mark, read⟩ := word.readBounds rest
    exact .inr ⟨c, cs, rest, by rw [whole, trimStart_cons noSpace], mark, read, rfl⟩

/-- The bounds that can be written are those that are read back from their quantifiers. -/
theorem sound_iff_readBack : b.Sound ↔ b.ReadBack := by
  constructor
  · intro sound rest
    exact ⟨fun reads => (sound_of_readQuantifier reads).2, readQuantifier_print sound⟩
  · intro back
    have reads := (back []).2 rfl
    exact (sound_of_readQuantifier reads).1

/-- The setters that can be read at all are just those that are read back from their own texts, and
the bounds that can be written are just those that are read back from their quantifiers. -/
theorem readBack_printed (keeps : engine.KeepsText) :
    (∀ s, (∃ cs rest, readSetter engine cs = .ok (s, rest)) ↔ s.ReadBack engine)
      ∧ ∀ b, Bounds.Sound b ↔ b.ReadBack := by
  refine ⟨fun s => ⟨?_, ?_⟩, fun b => sound_iff_readBack⟩
  · rintro ⟨cs, rest, reads⟩
    exact readBack_of_readSetter keeps reads
  · rintro ⟨text, -, reads⟩
    exact ⟨_, [], (reads []).2 fun _ => boundary_nil⟩

end

/-- A setter with a parenthesis between the quotes of its expression, and a backslash before a bracket
in its separator. -/
def quotedAndJoined : Setter :=
  ⟨"x", some ⟨"upper('a)')", .call .upper [.constant (.text "a)")]⟩, .join (some "\\]")⟩

theorem readSetter_quotedAndJoined :
    readSetter Expression.standard "(upper('a)')):x[\\\\]]".toList = .ok (quotedAndJoined, []) := by
  cbv

theorem readBack_quotedAndJoined :
    Expression.Engine.KeepsText Expression.standard
      ∧ (∃ text, printSetter quotedAndJoined = '@' :: text
          ∧ readSetter Expression.standard (text ++ "[f]".toList) = .ok (quotedAndJoined, "[f]".toList))
      ∧ readQuantifier "{18446744073709551615,} x".toList
          = .ok (⟨Bounds.unbounded, Bounds.unbounded⟩, "x".toList) := by
  obtain ⟨setters, bounds⟩ := readBack_printed Expression.keepsText_standard
  refine ⟨Expression.keepsText_standard, ?_, ?_⟩
  · obtain ⟨text, printed, reads⟩ := (setters quotedAndJoined).1 ⟨_, _, readSetter_quotedAndJoined⟩
    exact ⟨text, printed, (reads _).2 nofun⟩
  · have sound : Bounds.Sound ⟨Bounds.unbounded, Bounds.unbounded⟩ :=
      ⟨by decide, by decide, by decide⟩
    exact ((bounds _).1 sound " x".toList).2 rfl

end Pattern

end SpanSearch
