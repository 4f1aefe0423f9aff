import SpanSearch.Proofs.Pattern.Positions

/-! # Reading what is written between quotes

A text that is written between quotes is read as it was, and nothing of what follows the closing
quote is taken. In the strict form that is so for all texts. In the other form it is so for the texts
that can be read at all, as in these backslashes pair up in such a way that none stands before a
quote or at the end.
-/

namespace SpanSearch.Quoted

open SpanSearch.Cursor Pattern.Cursor

/-- Whether a text is read back from between quotes, up to the closing quote and no further: from
what follows the opening quote, and by its place in a source. -/
structure ReadBack (strict : Bool) (quote : Char) (text : List Char) : Prop where
  following : ∀ rest, read strict quote (escape strict quote text ++ quote :: rest) = some (text, rest)
  placed : ∀ part before rest,
    quotedAt (before ++ quote :: (escape strict quote text ++ quote :: rest)) strict part before.length
      = .ok (text, before.length + (escape strict quote text).length + 2)

section

variable {strict : Bool} {quote : Char} {raw text before rest : List Char}

/-- What is read from behind the opening quote is read by its place as well. -/
theorem quotedAt_of_read (part : QuotedPart) (isQuote : (quote == '\'' || quote == '"') = true)
    (reads : read strict quote (raw ++ quote :: rest) = some (text, rest)) :
    quotedAt (before ++ quote :: (raw ++ quote :: rest)) strict part before.length
      = .ok (text, before.length + raw.length + 2) := by
  have opens : (before ++ quote :: (raw ++ quote :: rest))[before.length]? = some quote := by simp
  have behind : (before ++ quote :: (raw ++ quote :: rest)).drop (before.length + 1)
      = raw ++ quote :: rest := by
    rw [← List.drop_drop, List.drop_left]
    rfl
  have related := @insideAt_related (before ++ quote :: (raw ++ quote :: rest)) (before.length + 1)
    strict quote
  rw [behind, reads] at related
  obtain ⟨none, -⟩ | ⟨v, j, same, found, least, most⟩ := related_cases related
  · cases none
  · obtain ⟨rfl, ends⟩ := Prod.mk.inj (Option.some.inj same)
    -- what is left tells the place
    have place : j = before.length + raw.length + 2 := by
      have left := congrArg List.length ends
      simp only [List.length_drop, List.length_append, List.length_cons] at left most
      omega
    rw [quotedAt_eq opens isQuote, found, place]

/-- A text that is read from somewhere in the form that is not strict can be written between the
quotes again, and the other way round. -/
theorem readable_iff_quotable (ordinary : quote ≠ '\\') :
    (∃ cs rest, read false quote cs = some (text, rest)) ↔ Quotable quote text := by
  constructor
  · rintro ⟨cs, rest, reads⟩
    obtain ⟨raw, inside, -, rfl⟩ := inside_of_read reads
    exact inside.quotable ordinary
  · intro quotable
    obtain ⟨inside, same⟩ := quotable.inside_escape ordinary
    refine ⟨escape false quote text ++ [quote], [], ?_⟩
    rw [inside.read false ordinary, same]

/-- What is written as a text between quotes and stands for a text is read back as that text. -/
theorem readBack_of_inside (isQuote : (quote == '\'' || quote == '"') = true)
    (written : Inside quote (escape strict quote text)
      ∧ meaning strict quote (escape strict quote text) = text) : ReadBack strict quote text := by
  obtain ⟨inside, same⟩ := written
  have ordinary : quote ≠ '\\' := by
    rintro rfl
    cases isQuote
  have following (rest : List Char) :
      read strict quote (escape strict quote text ++ quote :: rest) = some (text, rest) := by
    rw [inside.read strict ordinary, same]
  exact ⟨following, fun part before rest => quotedAt_of_read part isQuote (following rest)⟩

/-- Every text is read back from between apostrophes, and between double quotes just the texts that
can be read from there at all. -/
theorem readBack_escaped :
    (∀ text, ReadBack true '\'' text)
      ∧ ∀ text, (∃ cs rest, read false '"' cs = some (text, rest)) ↔ ReadBack false '"' text := by
  refine ⟨fun text => readBack_of_inside rfl (inside_escape (by decide) text), fun text => ?_⟩
  constructor
  · intro readable
    have quotable := (readable_iff_quotable (by decide)).1 readable
    exact readBack_of_inside rfl (quotable.inside_escape (by decide))
  · intro back
    exact ⟨_, [], back.following []⟩

/-- A run of backslashes before a quote. -/
example : read false '"' (escape false '"' ['\\', '\\', '"', 'a'] ++ ['"', 'b'])
    = some (['\\', '\\', '"', 'a'], ['b']) := by
  decide

end

end SpanSearch.Quoted
