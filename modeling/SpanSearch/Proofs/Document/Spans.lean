import Mathlib.Data.List.Induction
import Mathlib.Data.List.Infix
import SpanSearch.Proofs.Document.Identity

/-! # Spans in documents

The spans of the annotations lie within the tokens of the document, whatever operations were carried
out, unless an annotation was put on whose span wraps. Such a span is compared with the tokens by its
wrapped end, so it may be let in although it exceeds them.
-/

namespace SpanSearch

/-- A span that lay within the tokens lies within them after an insertion. -/
theorem Annotation.stop_afterInsertion_le {a : Annotation} {length : Nat} (place count : Nat)
    (within : a.start + a.size ≤ length) :
    (a.afterInsertion place count).start + (a.afterInsertion place count).size ≤ length + count := by
  -- sums that wrap are smaller than those that do not
  have shifted : Offset.add a.start count ≤ a.start + count := Nat.mod_le _ _
  have grown : Offset.add a.size count ≤ a.size + count := Nat.mod_le _ _
  unfold afterInsertion
  split
  · dsimp only
    omega
  · split
    · dsimp only
      omega
    · omega

/-- A span that lay within the tokens lies within those that are left after a removal. -/
theorem Annotation.stop_afterRemoval_le {a : Annotation} {length start count : Nat}
    (within : a.start + a.size ≤ length) (room : length < Offset.limit)
    (inside : start + count ≤ length) :
    (a.afterRemoval start (start + count)).start + (a.afterRemoval start (start + count)).size
      ≤ length - count := by
  have stop_eq : a.stop = a.start + a.size := Offset.add_eq (by omega)
  simp only [afterRemoval, overlap, stop_eq]
  split
  · omega
  · split <;> omega

theorem Token.length_spaceLast (tokens : List Token) :
    (Token.spaceLast tokens).length = tokens.length :=
  List.length_modify ..

namespace Document

/-- Whether the spans of all annotations lie within the tokens. -/
def Within (d : Document) : Prop := ∀ a ∈ d.annotations, a.start + a.size ≤ d.tokens.length

end Document

/-- Whether an operation puts an annotation on a document whose span wraps: its end is small enough
after it has wrapped, and its identifier is free. -/
def Operation.Overruns (d : Document) : Operation → Prop
  | annotate fresh a =>
    Offset.limit ≤ a.start + a.size ∧ a.stop ≤ d.tokens.length
      ∧ d.find? (a.id.getD fresh) = none
  | _ => False

namespace Document

variable {d : Document}

theorem within_ofTokens (tokenizer : Tokenizer) (tokens : List Token) :
    (ofTokens tokenizer tokens).Within :=
  fun _ mem => nomatch mem

theorem Within.annotate (within : d.Within) (fresh : String) (a : Annotation)
    (fair : ¬ (Operation.annotate fresh a).Overruns d) :
    (d.after (d.annotate fresh a)).1.Within := by
  unfold Document.annotate
  dsimp only
  split
  · exact within
  · next inside =>
    split
    · exact within
    · next unused =>
      have bounded : a.start + a.size < Offset.limit := by
        by_contra wraps
        exact fair ⟨by omega, by omega, by simpa using unused⟩
      have stop_eq : a.stop = a.start + a.size := Offset.add_eq bounded
      refine List.forall_mem_append.2 ⟨within, ?_⟩
      intro b mem
      obtain rfl := List.mem_singleton.1 mem
      dsimp only [Document.after]
      omega

theorem Within.remove (within : d.Within) (id : String) :
    (d.after (d.remove id)).1.Within := by
  unfold Document.remove
  split
  · exact within
  · intro a mem
    exact within a (List.mem_of_mem_eraseP mem)

theorem mem_replaceFirst {id : String} {a b : Annotation} {annotations : List Annotation}
    (mem : b ∈ replaceFirst id a annotations) : b = a ∨ b ∈ annotations := by
  induction annotations with
  | nil => cases mem
  | cons c rest ih =>
    unfold replaceFirst at mem
    split at mem
    · rcases List.mem_cons.1 mem with rfl | mem
      · exact .inl rfl
      · exact .inr (List.mem_cons_of_mem _ mem)
    · rcases List.mem_cons.1 mem with rfl | mem
      · exact .inr List.mem_cons_self
      · exact (ih mem).imp_right (List.mem_cons_of_mem _)

/-- An annotation may take the place of one with the same span. -/
theorem Within.replaceFirst {a old : Annotation} (within : d.Within) (id : String)
    (held : old ∈ d.annotations) (start : a.start = old.start) (size : a.size = old.size) :
    Within { d with annotations := Document.replaceFirst id a d.annotations } := by
  intro b mem
  rcases mem_replaceFirst mem with rfl | mem
  · rw [start, size]
    exact within old held
  · exact within b mem

theorem Within.retype (within : d.Within) (id type : String) :
    (d.after (d.retype id type)).1.Within := by
  unfold Document.retype
  split
  · exact within
  · next found =>
    split
    · exact within
    · exact within.replaceFirst id (List.mem_of_find?_eq_some found) rfl rfl

theorem Within.setAttribute (within : d.Within) (id name value : String) :
    (d.after (d.setAttribute id name value)).1.Within := by
  unfold Document.setAttribute
  split
  · exact within
  · next found => exact within.replaceFirst id (List.mem_of_find?_eq_some found) rfl rfl

theorem Within.setFlag (within : d.Within) (place : Nat) (flag : String) :
    (d.after (d.setFlag place flag)).1.Within := by
  unfold Document.setFlag
  split
  · intro a mem
    simp only [Document.after, List.length_modify]
    exact within a mem
  · exact within

theorem Within.insert (within : d.Within) (place : Nat) (text : String) :
    (d.after (d.insert place text)).1.Within := by
  unfold Document.insert
  dsimp only
  split
  · exact within
  · next inside =>
    split
    · exact within
    · generalize (if (d.tokens.drop place).isEmpty = true then d.tokenizer.tokens text
        else Token.spaceLast (d.tokenizer.tokens text)) = inserted
      intro a mem
      obtain ⟨b, held, rfl⟩ := List.mem_map.1 mem
      have bound := b.stop_afterInsertion_le place inserted.length (within b held)
      simp only [Document.after, List.length_append, Token.length_spaceLast, List.length_take,
        List.length_drop]
      omega

theorem Within.removeTokens (within : d.Within) (room : d.tokens.length < Offset.limit)
    (start count : Nat) : (d.after (d.removeTokens start count)).1.Within := by
  unfold Document.removeTokens
  dsimp only
  split
  · exact within
  · next inside =>
    split
    · exact within
    · simp only [Bool.or_eq_true, decide_eq_true_eq, not_or, Nat.not_lt] at inside
      intro a mem
      obtain ⟨b, kept, rfl⟩ := List.mem_map.1 mem
      have bound := Annotation.stop_afterRemoval_le (within b (List.mem_filter.1 kept).1) room
        inside.1
      simp only [Document.after, List.length_append, List.length_take, List.length_drop]
      omega

/-- Spans stay within the tokens unless an operation lets one in that wraps. -/
theorem Within.outcome (within : d.Within) (room : d.tokens.length < Offset.limit)
    (op : Operation) (fair : ¬ op.Overruns d) : (op.outcome d).1.Within := by
  cases op with
  | annotate fresh a => exact within.annotate fresh a fair
  | remove id => exact within.remove id
  | retype id type => exact within.retype id type
  | setAttribute id name value => exact within.setAttribute id name value
  | setFlag place flag => exact within.setFlag place flag
  | insert place text => exact within.insert place text
  | removeTokens start count => exact within.removeTokens room start count

/-- What is let in although it wraps exceeds the tokens. -/
theorem not_within_outcome {op : Operation} (room : d.tokens.length < Offset.limit)
    (overruns : op.Overruns d) : ¬ (op.outcome d).1.Within := by
  cases op with
  | annotate fresh a =>
    obtain ⟨wraps, inside, unused⟩ := overruns
    intro within
    have held := within { a with id := some (a.id.getD fresh) }
    simp only [Operation.outcome, Document.annotate, Nat.not_lt.2 inside, unused, if_false,
      Option.isSome_none, Bool.false_eq_true, Document.after] at held
    have := held (List.mem_append_right _ List.mem_cons_self)
    omega
  | _ => exact overruns.elim

theorem edited_concat (ops : List Operation) (op : Operation) :
    d.edited (ops ++ [op]) = (op.outcome (d.edited ops)).1 :=
  edited_append ops [op]

/-- An annotation of two tokens that starts at the last offset there is. -/
def lastOffset : Annotation := ⟨some "X1", "t", Offset.greatest, 2, .empty⟩

end Document

end SpanSearch
