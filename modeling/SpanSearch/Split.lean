/-! # Splitting texts

A text is split at the first occurrence of another. The three parts make up the text again.
-/

namespace SpanSearch

/-- What precedes and what follows the first occurrence of a text. -/
def splitOnce (separator : List Char) : List Char → Option (List Char × List Char)
  | [] => if separator.isEmpty then some ([], []) else none
  | c :: cs =>
    if separator.isPrefixOf (c :: cs) then some ([], (c :: cs).drop separator.length)
    else (splitOnce separator cs).map fun (before, after) => (c :: before, after)

theorem append_of_splitOnce {separator cs before after : List Char}
    (h : splitOnce separator cs = some (before, after)) : before ++ separator ++ after = cs := by
  induction cs generalizing before with
  | nil =>
    simp only [splitOnce] at h
    split at h
    · next none => simp_all
    · cases h
  | cons c cs ih =>
    simp only [splitOnce] at h
    split at h
    · next here =>
      cases h
      exact List.prefix_iff_eq_append.1 (List.isPrefixOf_iff_prefix.1 here)
    · obtain ⟨⟨b, a⟩, found, heq⟩ := Option.map_eq_some_iff.1 h
      obtain ⟨rfl, rfl⟩ := Prod.mk.inj heq
      simp [← ih found]

end SpanSearch
