import Mathlib.Data.List.Forall2
import SpanSearch.Proofs.Document.Spans

/-! # What annotations cover

Annotations keep to the tokens that they cover. An insertion moves tokens apart, and an annotation
takes in what was inserted just when it was inserted inside of it. A removal lets tokens move up, and
an annotation goes just when no token of it is left.
-/

namespace SpanSearch

/-- Where a token is after `count` tokens were inserted at a place. -/
def Offset.afterInsertion (place count i : Nat) : Nat := if i < place then i else i + count

/-- Where a token that is left is after those from `start` up to `stop` were removed. -/
def Offset.afterRemoval (start stop i : Nat) : Nat := if i < start then i else i - (stop - start)

namespace Annotation

/-- Whether the annotation covers the token at an offset. -/
def Covers (a : Annotation) (i : Nat) : Prop := a.start ≤ i ∧ i < a.start + a.size

/-- Whether the annotation covers a token outside of a range. -/
def CoversOutside (start stop : Nat) (a : Annotation) : Prop :=
  ∃ i < a.start + a.size, a.start ≤ i ∧ ¬ (start ≤ i ∧ i < stop)

instance (start stop : Nat) (a : Annotation) : Decidable (a.CoversOutside start stop) :=
  inferInstanceAs (Decidable (∃ i < a.start + a.size, _))

/-- Whether an annotation is another one but for its span. -/
structure SameBut (a b : Annotation) : Prop where
  id : b.id = a.id
  type : b.type = a.type
  attributes : b.attributes = a.attributes

variable {a : Annotation} {length : Nat}

theorem sameBut_afterInsertion (place count : Nat) (a : Annotation) :
    a.SameBut (a.afterInsertion place count) := by
  unfold afterInsertion
  split
  · exact ⟨rfl, rfl, rfl⟩
  · split <;> exact ⟨rfl, rfl, rfl⟩

theorem sameBut_afterRemoval (start stop : Nat) (a : Annotation) :
    a.SameBut (a.afterRemoval start stop) :=
  ⟨rfl, rfl, rfl⟩

/-- The span after an insertion, if no sum wraps. -/
theorem span_afterInsertion {count : Nat} (place : Nat) (within : a.start + a.size ≤ length)
    (room : length + count < Offset.limit) :
    (a.afterInsertion place count).start = (if place ≤ a.start then a.start + count else a.start)
      ∧ (a.afterInsertion place count).size
        = if a.start < place ∧ place < a.start + a.size then a.size + count else a.size := by
  have stop_eq : a.stop = a.start + a.size := Offset.add_eq (by omega)
  have shifted : Offset.add a.start count = a.start + count := Offset.add_eq (by omega)
  have grown : Offset.add a.size count = a.size + count := Offset.add_eq (by omega)
  unfold afterInsertion
  by_cases behind : place ≤ a.start
  · rw [if_pos behind, if_pos behind, if_neg (by omega)]
    exact ⟨shifted, rfl⟩
  · rw [if_neg behind, if_neg behind, stop_eq]
    by_cases inside : place < a.start + a.size
    · rw [if_pos inside, if_pos (by omega)]
      exact ⟨rfl, grown⟩
    · rw [if_neg inside, if_neg (by omega)]
      exact ⟨rfl, rfl⟩

/-- After an insertion an annotation covers what it covered, and what was inserted if it began before
and ended after that. -/
theorem covers_afterInsertion {place count : Nat} (within : a.start + a.size ≤ length)
    (room : length + count < Offset.limit) (j : Nat) :
    (a.afterInsertion place count).Covers j
      ↔ (∃ i, a.Covers i ∧ j = Offset.afterInsertion place count i)
        ∨ (place ≤ j ∧ j < place + count) ∧ a.start < place ∧ place < a.start + a.size := by
  obtain ⟨start_eq, size_eq⟩ := span_afterInsertion place within room
  simp only [Covers, start_eq, size_eq, Offset.afterInsertion]
  constructor
  · intro covered
    by_cases inserted : place ≤ j ∧ j < place + count
    · right
      split at covered <;> split at covered <;> omega
    · left
      by_cases before : j < place
      · refine ⟨j, ?_, (if_pos before).symm⟩
        split at covered <;> split at covered <;> omega
      · refine ⟨j - count, ?_, ?_⟩
        · split at covered <;> split at covered <;> omega
        · rw [if_neg (by omega)]
          omega
  · rintro (⟨i, covered, rfl⟩ | ⟨inserted, inside⟩)
    · split <;> split <;> split <;> omega
    · rw [if_neg (by omega), if_pos inside]
      omega

/-- After a removal an annotation covers what it covered of the tokens that are left. -/
theorem covers_afterRemoval {start stop : Nat} (within : a.start + a.size ≤ length)
    (room : length < Offset.limit) (range : start ≤ stop) (j : Nat) :
    (a.afterRemoval start stop).Covers j
      ↔ ∃ i, a.Covers i ∧ ¬ (start ≤ i ∧ i < stop) ∧ j = Offset.afterRemoval start stop i := by
  have stop_eq : a.stop = a.start + a.size := Offset.add_eq (by omega)
  simp only [Covers, afterRemoval, overlap, stop_eq, Offset.afterRemoval]
  constructor
  · intro covered
    by_cases before : j < start
    · refine ⟨j, ?_, by omega, (if_pos before).symm⟩
      split at covered
      · omega
      · split at covered <;> omega
    · refine ⟨j + (stop - start), ?_, by omega, ?_⟩
      · split at covered
        · omega
        · split at covered <;> omega
      · rw [if_neg (by omega)]
        omega
  · rintro ⟨i, covered, remains, rfl⟩
    split
    · split <;> omega
    · split <;> split <;> omega

/-- An annotation has a size after a removal just when it covers a token that is left. -/
theorem size_afterRemoval_ne_zero_iff {start stop : Nat} (within : a.start + a.size ≤ length)
    (room : length < Offset.limit) (range : start ≤ stop) :
    (a.afterRemoval start stop).size ≠ 0 ↔ a.CoversOutside start stop := by
  have covers := a.covers_afterRemoval within room range
  constructor
  · intro sized
    obtain ⟨i, covered, remains, -⟩ :=
      (covers (a.afterRemoval start stop).start).1 ⟨Nat.le_refl _, by omega⟩
    exact ⟨i, covered.2, covered.1, remains⟩
  · rintro ⟨i, below, above, remains⟩
    have := (covers _).2 ⟨i, ⟨above, below⟩, remains, rfl⟩
    unfold Covers at this
    omega

end Annotation

/-- What corresponds to an item stands at the same place. -/
theorem exists_getElem?_of_forall₂ {R : α → β → Prop} {as : List α} {bs : List β}
    (related : List.Forall₂ R as bs) {i : Nat} {a : α} (here : as[i]? = some a) :
    ∃ b, bs[i]? = some b ∧ R a b := by
  induction related generalizing i with
  | nil => simp at here
  | @cons a' b' as bs first _ ih =>
    cases i with
    | zero =>
      obtain rfl : a' = a := by simpa using here
      exact ⟨b', rfl, first⟩
    | succ i => exact ih here

namespace Token

/-- Whether a token is another one, but for a blank that it may have got. -/
def Keeps (token token' : Token) : Prop := token' = token ∨ token' = token.spaced

theorem keeps_spaceLast (tokens : List Token) :
    List.Forall₂ Keeps tokens (spaceLast tokens) := by
  apply List.forall₂_of_length_eq_of_get (length_spaceLast tokens).symm
  intro i here there
  simp only [spaceLast, List.get_eq_getElem, List.getElem_modify]
  split
  · exact .inr rfl
  · exact .inl rfl

end Token

namespace Document

/-- What the insertion of tokens at a place does to a document. -/
structure Inserts (d d' : Document) (place : Nat) (inserted : List Token) : Prop where
  length : d'.tokens.length = d.tokens.length + inserted.length
  kept : ∀ i token, d.tokens[i]? = some token →
    ∃ token', d'.tokens[Offset.afterInsertion place inserted.length i]? = some token'
      ∧ token.Keeps token'
  added : ∀ i token, inserted[i]? = some token →
    ∃ token', d'.tokens[place + i]? = some token' ∧ token.Keeps token'
  /-- Every annotation covers what it covered, and what was inserted if it began before and ended
  after that. -/
  annotations : List.Forall₂
    (fun a b => a.SameBut b
      ∧ ∀ j, b.Covers j
        ↔ (∃ i, a.Covers i ∧ j = Offset.afterInsertion place inserted.length i)
          ∨ (place ≤ j ∧ j < place + inserted.length)
            ∧ a.start < place ∧ place < a.start + a.size)
    d.annotations d'.annotations

/-- What the removal of the tokens from `start` up to `stop` does to a document. -/
structure Removes (d d' : Document) (start stop : Nat) : Prop where
  length : d'.tokens.length + (stop - start) = d.tokens.length
  kept : ∀ i, ¬ (start ≤ i ∧ i < stop) →
    d'.tokens[Offset.afterRemoval start stop i]? = d.tokens[i]?
  /-- The annotations that cover a token that is left cover what they covered of these. The others
  are gone. -/
  annotations : List.Forall₂
    (fun a b => a.SameBut b
      ∧ ∀ j, b.Covers j
        ↔ ∃ i, a.Covers i ∧ ¬ (start ≤ i ∧ i < stop) ∧ j = Offset.afterRemoval start stop i)
    (d.annotations.filter fun a => a.CoversOutside start stop) d'.annotations

variable {d d' : Document} {events : List Event}

/-- An insertion that changes the tokens puts some between those before and those after the place. -/
theorem insert_eq_ok {place count : Nat} {text : String}
    (inserted : d.insert place text = .ok (count, d', events)) (differs : d'.tokens ≠ d.tokens) :
    place ≤ d.tokens.length ∧ count = (d.tokenizer.tokens text).length
      ∧ ∃ before new, List.Forall₂ Token.Keeps (d.tokens.take place) before
        ∧ List.Forall₂ Token.Keeps (d.tokenizer.tokens text) new
        ∧ d'.tokens = before ++ new ++ d.tokens.drop place
        ∧ d'.annotations = d.annotations.map (·.afterInsertion place count) := by
  unfold Document.insert at inserted
  dsimp only at inserted
  split at inserted
  · cases inserted
  · next inside =>
    split at inserted
    · cases inserted
      exact absurd rfl differs
    · have keeps : List.Forall₂ Token.Keeps (d.tokenizer.tokens text)
          (if (d.tokens.drop place).isEmpty = true then d.tokenizer.tokens text
            else Token.spaceLast (d.tokenizer.tokens text)) := by
        split
        · exact List.forall₂_same.2 fun _ _ => .inl rfl
        · exact Token.keeps_spaceLast _
      cases inserted
      exact ⟨Nat.not_lt.1 inside, keeps.length_eq.symm, _, _, Token.keeps_spaceLast _, keeps, rfl,
        rfl⟩

theorem Within.inserts (within : d.Within) {place count : Nat} {text : String}
    (inserted : d.insert place text = .ok (count, d', events)) (differs : d'.tokens ≠ d.tokens)
    (room : d'.tokens.length < Offset.limit) :
    d.Inserts d' place (d.tokenizer.tokens text) := by
  obtain ⟨inside, rfl, before, new, keepsBefore, keepsNew, tokens, annotations⟩ :=
    insert_eq_ok inserted differs
  have length_before : before.length = place := by
    rw [← keepsBefore.length_eq, List.length_take, Nat.min_eq_left inside]
  have length_new : new.length = (d.tokenizer.tokens text).length := keepsNew.length_eq.symm
  have length : d'.tokens.length = d.tokens.length + (d.tokenizer.tokens text).length := by
    simp only [tokens, List.length_append, length_before, length_new, List.length_drop]
    omega
  refine ⟨length, ?_, ?_, ?_⟩
  · intro i token there
    rw [tokens, List.append_assoc]
    by_cases early : i < place
    · obtain ⟨token', there', keeps⟩ :=
        exists_getElem?_of_forall₂ keepsBefore (i := i) (by rw [List.getElem?_take_of_lt early, there])
      refine ⟨token', ?_, keeps⟩
      rw [Offset.afterInsertion, if_pos early, List.getElem?_append_left (by omega), there']
    · refine ⟨token, ?_, .inl rfl⟩
      rw [Offset.afterInsertion, if_neg early, List.getElem?_append_right (by omega),
        List.getElem?_append_right (by omega), List.getElem?_drop, ← there]
      congr 1
      omega
  · intro i token there
    obtain ⟨token', there', keeps⟩ := exists_getElem?_of_forall₂ keepsNew there
    have bound : i < new.length := (List.getElem?_eq_some_iff.1 there').1
    refine ⟨token', ?_, keeps⟩
    rw [tokens, List.append_assoc, List.getElem?_append_right (by omega),
      List.getElem?_append_left (by omega), ← there']
    congr 1
    omega
  · rw [annotations, List.forall₂_map_right_iff]
    apply List.forall₂_same.2
    intro a mem
    exact ⟨a.sameBut_afterInsertion .., a.covers_afterInsertion (within a mem) (length ▸ room)⟩

/-- A removal that changes the tokens takes out those of the range. -/
theorem removeTokens_eq_ok {start count : Nat}
    (removed : d.removeTokens start count = .ok ((), d', events))
    (differs : d'.tokens ≠ d.tokens) :
    start + count ≤ d.tokens.length
      ∧ d'.tokens = d.tokens.take start ++ d.tokens.drop (start + count)
      ∧ d'.annotations
        = (d.annotations.filter fun a => !(a.afterRemoval start (start + count)).size == 0).map
          (·.afterRemoval start (start + count)) := by
  unfold Document.removeTokens at removed
  dsimp only at removed
  split at removed
  · cases removed
  · next inside =>
    simp only [Bool.or_eq_true, decide_eq_true_eq, not_or, Nat.not_lt] at inside
    split at removed
    · cases removed
      exact absurd rfl differs
    · cases removed
      exact ⟨inside.1, rfl, rfl⟩

theorem Within.removes (within : d.Within) {start count : Nat}
    (removed : d.removeTokens start count = .ok ((), d', events))
    (differs : d'.tokens ≠ d.tokens) (room : d.tokens.length < Offset.limit) :
    d.Removes d' start (start + count) := by
  obtain ⟨inside, tokens, annotations⟩ := removeTokens_eq_ok removed differs
  have range : start ≤ start + count := Nat.le_add_right ..
  have lasting : (d.annotations.filter fun a => !(a.afterRemoval start (start + count)).size == 0)
      = d.annotations.filter fun a => a.CoversOutside start (start + count) := by
    apply List.filter_congr
    intro a mem
    have covers := a.size_afterRemoval_ne_zero_iff (within a mem) room range
    rw [Bool.eq_iff_iff]
    simpa using covers
  refine ⟨?_, ?_, ?_⟩
  · rw [tokens, List.length_append, List.length_take, List.length_drop]
    omega
  · intro i remains
    rw [tokens, Offset.afterRemoval]
    by_cases early : i < start
    · rw [if_pos early, List.getElem?_append_left (by rw [List.length_take]; omega),
        List.getElem?_take_of_lt early]
    · rw [if_neg early, List.getElem?_append_right (by rw [List.length_take]; omega),
        List.getElem?_drop, List.length_take]
      congr 1
      omega
  · rw [annotations, lasting, List.forall₂_map_right_iff]
    apply List.forall₂_same.2
    intro a mem
    have held : a ∈ d.annotations := (List.mem_filter.1 mem).1
    exact ⟨a.sameBut_afterRemoval .., a.covers_afterRemoval (within a held) room range⟩

/-- In a document whose spans lie within its tokens, an edit of the tokens leaves every annotation on
the tokens that it covers. -/
theorem coverage_of_edits (d : Document) (within : d.Within) :
    (∀ place text count d' events, d.insert place text = .ok (count, d', events) →
        d'.tokens ≠ d.tokens → d'.tokens.length < Offset.limit →
        d.Inserts d' place (d.tokenizer.tokens text))
      ∧ ∀ start count d' events, d.removeTokens start count = .ok ((), d', events) →
        d'.tokens ≠ d.tokens → d.tokens.length < Offset.limit →
        d.Removes d' start (start + count) := by
  constructor
  · intro place text count d' events inserted differs room
    exact within.inserts inserted differs room
  · intro start count d' events removed differs room
    exact within.removes removed differs room

/-- Four tokens with annotations around the middle, across its left edge, inside of it and of no
size. -/
def fourTokens : Document where
  tokens := [.ofText "a", .ofText "b", .ofText "c", .ofText "d"]
  annotations :=
    [⟨some "X1", "t", 0, 4, .empty⟩, ⟨some "X2", "t", 0, 2, .empty⟩, ⟨some "X3", "t", 1, 2, .empty⟩,
      ⟨some "X4", "t", 2, 0, .empty⟩]
  tokenizer := .standard

theorem coverage_fourTokens :
    fourTokens.Within
      ∧ (∃ d', fourTokens.insert 2 "x" = .ok (1, d', [.tokens])
        ∧ d'.annotations.map (fun a => (a.start, a.size)) = [(0, 5), (0, 2), (1, 3), (3, 0)]
        ∧ fourTokens.Inserts d' 2 [.ofText "x"])
      ∧ ∃ d' events, fourTokens.removeTokens 1 2 = .ok ((), d', events)
        ∧ d'.annotations.map (fun a => (a.start, a.size)) = [(0, 2), (0, 1)]
        ∧ fourTokens.Removes d' 1 3 := by
  have within : fourTokens.Within := by
    unfold Within
    decide
  have text : fourTokens.tokenizer.tokens "x" = [.ofText "x"] := by decide +kernel
  have inserted : fourTokens.insert 2 "x"
      = .ok (1,
          { fourTokens with
            tokens := [.ofText "a", (Token.ofText "b").spaced, (Token.ofText "x").spaced,
              .ofText "c", .ofText "d"]
            annotations := fourTokens.annotations.map (·.afterInsertion 2 1) },
          [.tokens]) := by
    unfold Document.insert
    rw [text]
    rfl
  have removed : fourTokens.removeTokens 1 2
      = .ok ((),
          { fourTokens with
            tokens := [.ofText "a", .ofText "d"]
            annotations := [⟨some "X1", "t", 0, 2, .empty⟩, ⟨some "X2", "t", 0, 1, .empty⟩] },
          [.removed ⟨some "X3", "t", 1, 2, .empty⟩, .removed ⟨some "X4", "t", 2, 0, .empty⟩,
            .tokens]) := by
    rfl
  obtain ⟨inserts, removes⟩ := coverage_of_edits fourTokens within
  refine ⟨within, ⟨_, inserted, by decide, ?_⟩, ⟨_, _, removed, by decide, ?_⟩⟩
  · rw [← text]
    exact inserts 2 "x" _ _ _ inserted (by decide) (by decide)
  · exact removes 1 2 _ _ removed (by decide) (by decide)

end Document

end SpanSearch
