import SpanSearch.Proofs.Document.Coverage

/-! # Taking back an insertion

Removing the tokens that were inserted brings a document back. Every annotation has its old span
again, whether it was moved, grew or stood before the place. What remains is a blank that the token
before the place may have got, and annotations without tokens go, as they do with every removal.
-/

namespace SpanSearch

namespace Annotation

variable {a b : Annotation} {place count length : Nat}

theorem SameBut.eq (same : a.SameBut b) (start : b.start = a.start) (size : b.size = a.size) :
    b = a := by
  obtain ⟨id, type, attributes⟩ := same
  cases a
  cases b
  simp_all

/-- What an insertion does to a span, the removal of what was inserted undoes. -/
theorem afterRemoval_afterInsertion (place : Nat) (within : a.start + a.size ≤ length)
    (room : length + count < Offset.limit) :
    (a.afterInsertion place count).afterRemoval place (place + count) = a := by
  have moved := span_afterInsertion place within room
  have inside := stop_afterInsertion_le place count within
  have same := sameBut_afterInsertion place count a
  generalize a.afterInsertion place count = b at *
  obtain ⟨start_eq, size_eq⟩ := moved
  have stop_eq : b.stop = b.start + b.size := Offset.add_eq (by omega)
  have restored : b.SameBut (b.afterRemoval place (place + count)) := sameBut_afterRemoval ..
  refine SameBut.eq ⟨restored.id.trans same.id, restored.type.trans same.type,
    restored.attributes.trans same.attributes⟩ ?_ ?_
  · simp only [afterRemoval]
    split at start_eq <;> split_ifs <;> omega
  · simp only [afterRemoval, overlap, stop_eq]
    split at start_eq <;> split at size_eq <;> omega

end Annotation

namespace Token

theorem spaced_eq (token : Token) :
    token.spaced = token ∨ token.space = "" ∧ token.spaced = { token with space := " " } := by
  unfold spaced
  split
  · next empty => exact .inr ⟨String.isEmpty_iff.1 empty, rfl⟩
  · exact .inl rfl

/-- In front of the others, only the last of the first `place` tokens can get a blank. -/
theorem getElem?_spaceLast_take {tokens : List Token} {place : Nat} (inside : place ≤ tokens.length)
    (i : Nat) :
    (spaceLast (tokens.take place) ++ tokens.drop place)[i]?
      = if i + 1 = place then tokens[i]?.map spaced else tokens[i]? := by
  have length : (spaceLast (tokens.take place)).length = place := by
    rw [length_spaceLast, List.length_take, Nat.min_eq_left inside]
  rcases Nat.lt_or_ge i place with early | late
  · rw [List.getElem?_append_left (by omega), spaceLast, List.getElem?_modify,
      List.getElem?_take_of_lt early, List.length_take, Nat.min_eq_left inside]
    by_cases last : i + 1 = place
    · rw [if_pos last]
      simp [← last]
    · rw [if_neg last]
      have other : place - 1 ≠ i := by omega
      simp [other]
  · rw [List.getElem?_append_right (by omega), length, List.getElem?_drop, if_neg (by omega)]
    congr 1
    omega

end Token

namespace Document

/-- Whether a document is what another one was before `count` tokens were inserted at a place and
removed again. -/
structure Restores (d d' : Document) (place count : Nat) : Prop where
  length : d'.tokens.length = d.tokens.length
  /-- A token is as it was, but that the one before the place may have got a blank. -/
  tokens : ∀ i token, d.tokens[i]? = some token →
    ∃ token', d'.tokens[i]? = some token'
      ∧ (token' = token ∨
        0 < count ∧ i + 1 = place ∧ token.space = "" ∧ token' = { token with space := " " })
  annotations : d'.annotations
    = if count = 0 then d.annotations else d.annotations.filter (·.size ≠ 0)
  tokenizer : d'.tokenizer = d.tokenizer

variable {d : Document} {place : Nat}

theorem restores_self (d : Document) (place : Nat) : d.Restores d place 0 where
  length := rfl
  tokens _ token here := ⟨token, here, .inl rfl⟩
  annotations := (if_pos rfl).symm
  tokenizer := rfl

/-- The annotations that are left have their old spans, and only those without tokens are lost. -/
theorem Within.annotations_undone (within : d.Within) (place : Nat) {count : Nat}
    (room : d.tokens.length + count < Offset.limit) :
    ((d.annotations.map (·.afterInsertion place count)).filter
        (fun a => !((a.afterRemoval place (place + count)).size == 0))).map
        (·.afterRemoval place (place + count))
      = d.annotations.filter (·.size ≠ 0) := by
  have undone (a : Annotation) (mem : a ∈ d.annotations) :
      (a.afterInsertion place count).afterRemoval place (place + count) = a :=
    a.afterRemoval_afterInsertion place (within a mem) room
  calc
    _ = (d.annotations.filter (fun a =>
            !(((a.afterInsertion place count).afterRemoval place (place + count)).size == 0))).map
          (fun a => (a.afterInsertion place count).afterRemoval place (place + count)) := by
      rw [List.filter_map, List.map_map]
      rfl
    _ = (d.annotations.filter (·.size ≠ 0)).map
          (fun a => (a.afterInsertion place count).afterRemoval place (place + count)) := by
      congr 1
      apply List.filter_congr
      intro a mem
      rw [undone a mem, Bool.eq_iff_iff]
      simp
    _ = (d.annotations.filter (·.size ≠ 0)).map id :=
      List.map_congr_left fun a mem => undone a (List.mem_filter.1 mem).1
    _ = d.annotations.filter (·.size ≠ 0) := List.map_id _

/-- What an insertion gives. What is put in is as long as the text has tokens. -/
theorem insert_eq (d : Document) (inside : place ≤ d.tokens.length) {text : String}
    (several : d.tokenizer.tokens text ≠ []) :
    ∃ new, new.length = (d.tokenizer.tokens text).length
      ∧ d.insert place text
        = .ok (new.length,
            ⟨Token.spaceLast (d.tokens.take place) ++ new ++ d.tokens.drop place,
              d.annotations.map (·.afterInsertion place new.length), d.tokenizer⟩, [.tokens]) := by
  rw [Document.insert, if_neg (Nat.not_lt.2 inside)]
  dsimp only
  rw [if_neg (by simpa using several)]
  refine ⟨_, ?_, rfl⟩
  split
  · rfl
  · exact Token.length_spaceLast _

/-- What a removal gives. -/
theorem removeTokens_eq (d : Document) (start count : Nat)
    (inside : start + count ≤ d.tokens.length) (room : d.tokens.length < Offset.limit)
    (several : count ≠ 0) :
    ∃ events, d.removeTokens start count
      = .ok ((),
          ⟨d.tokens.take start ++ d.tokens.drop (start + count),
            (d.annotations.filter fun a => !((a.afterRemoval start (start + count)).size == 0)).map
              (·.afterRemoval start (start + count)), d.tokenizer⟩, events) := by
  have fits : ¬ (decide (d.tokens.length < start + count)
      || decide (Offset.limit ≤ start + count)) = true := by
    simp only [Bool.or_eq_true, decide_eq_true_eq]
    omega
  rw [removeTokens]
  dsimp only
  rw [if_neg fits, if_neg several]
  exact ⟨_, rfl⟩

/-- Of tokens that were put between others, nothing is left after their removal. -/
theorem take_append_drop_inserted {before new after : List Token} (length : before.length = place) :
    (before ++ new ++ after).take place ++ (before ++ new ++ after).drop (place + new.length)
      = before ++ after := by
  have whole : place + new.length = (before ++ new).length := by
    rw [List.length_append, length]
  rw [whole, List.drop_left, List.append_assoc, ← length, List.take_left]

/-- In a document whose spans lie within its tokens, every insertion can be taken back by the removal
of as many tokens as it says it has inserted. -/
theorem restored_by_removal (d : Document) (within : d.Within) (inside : place ≤ d.tokens.length)
    (text : String)
    (room : d.tokens.length + (d.tokenizer.tokens text).length < Offset.limit) :
    ∃ count d₁ events d₂ events', d.insert place text = .ok (count, d₁, events)
      ∧ count = (d.tokenizer.tokens text).length
      ∧ d₁.removeTokens place count = .ok ((), d₂, events') ∧ d.Restores d₂ place count := by
  by_cases nothing : d.tokenizer.tokens text = []
  · refine ⟨0, d, [], d, [], ?_, by rw [nothing]; rfl, ?_, restores_self d place⟩
    · simp [Document.insert, Nat.not_lt.2 inside, nothing]
    · simp [removeTokens, Nat.not_lt.2 inside]
      omega
  · have several := List.length_pos_iff.2 nothing
    obtain ⟨new, length_new, inserted⟩ := d.insert_eq inside nothing
    have length : (Token.spaceLast (d.tokens.take place)).length = place := by
      rw [Token.length_spaceLast, List.length_take, Nat.min_eq_left inside]
    have length_all : (Token.spaceLast (d.tokens.take place) ++ new ++ d.tokens.drop place).length
        = d.tokens.length + new.length := by
      simp only [List.length_append, length, List.length_drop]
      omega
    obtain ⟨events', removed⟩ := removeTokens_eq
      ⟨Token.spaceLast (d.tokens.take place) ++ new ++ d.tokens.drop place,
        d.annotations.map (·.afterInsertion place new.length), d.tokenizer⟩
      place new.length (by dsimp only; omega) (by dsimp only; omega) (by omega)
    refine ⟨_, _, _, _, events', inserted, length_new, removed, ?_⟩
    dsimp only
    rw [take_append_drop_inserted length, within.annotations_undone place (by omega)]
    refine ⟨?_, ?_, (if_neg (by omega)).symm, rfl⟩
    · rw [List.length_append, length, List.length_drop]
      omega
    · intro i token here
      rw [Token.getElem?_spaceLast_take inside, here]
      by_cases last : i + 1 = place
      · rw [if_pos last]
        refine ⟨_, rfl, ?_⟩
        rcases token.spaced_eq with same | ⟨empty, blank⟩
        · exact .inl same
        · exact .inr ⟨by omega, last, empty, blank⟩
      · rw [if_neg last]
        exact ⟨token, rfl, .inl rfl⟩

/-- A token is inserted inside of two annotations, behind another and before one of no size, which is
lost with the removal. -/
theorem restored_fourTokens :
    fourTokens.Within ∧ 2 ≤ fourTokens.tokens.length
      ∧ fourTokens.tokens.length + (fourTokens.tokenizer.tokens "x").length < Offset.limit
      ∧ ∃ d₁ events d₂ events', fourTokens.insert 2 "x" = .ok (1, d₁, events)
        ∧ d₁.removeTokens 2 1 = .ok ((), d₂, events')
        ∧ fourTokens.Restores d₂ 2 1
        ∧ d₂.annotations = fourTokens.annotations.take 3 := by
  have within : fourTokens.Within := by
    unfold Within
    decide
  have text : fourTokens.tokenizer.tokens "x" = [.ofText "x"] := by decide +kernel
  have room : fourTokens.tokens.length + (fourTokens.tokenizer.tokens "x").length < Offset.limit := by
    rw [text]
    decide
  obtain ⟨count, d₁, events, d₂, events', inserted, count_eq, removed, restores⟩ :=
    restored_by_removal fourTokens within (show 2 ≤ 4 by decide) "x" room
  obtain rfl : count = 1 := by rw [count_eq, text, List.length_singleton]
  exact ⟨within, by decide, room, d₁, events, d₂, events', inserted, removed, restores,
    restores.annotations.trans (by decide)⟩

end Document

end SpanSearch
