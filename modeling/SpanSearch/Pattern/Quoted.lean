/-! # Quoted text

How text stands between quotes. A backslash makes the quote part of the text and, in the strict
form, also a backslash. Where the form is not strict, any other pair of a backslash and a character
stays as it is.
-/

namespace SpanSearch.Quoted

/-- Reads the text up to the closing quote, and gives what follows it. There is none if the quote
is missing. -/
def read (strict : Bool) (quote : Char) : List Char → Option (List Char × List Char)
  | [] => none
  | '\\' :: [] => none
  | '\\' :: c :: rest =>
    (read strict quote rest).map fun (text, rest) =>
      if c == quote || (strict && c == '\\') then (c :: text, rest) else ('\\' :: c :: text, rest)
  | c :: rest =>
    if c == quote then some ([], rest)
    else (read strict quote rest).map fun (text, rest) => (c :: text, rest)

theorem read_length {strict : Bool} {quote : Char} {cs text rest : List Char}
    (h : read strict quote cs = some (text, rest)) : rest.length < cs.length := by
  fun_induction read strict quote cs generalizing text with
  | case1 => simp at h
  | case2 => simp at h
  | case3 c tail ih =>
    obtain ⟨⟨t, r⟩, ht, heq⟩ := Option.map_eq_some_iff.1 h
    obtain rfl : r = rest := by
      dsimp only at heq
      split at heq <;> exact (Prod.mk.inj heq).2
    have := ih ht
    simp only [List.length_cons]
    omega
  | case4 => simp_all
  | case5 c tail _ _ _ ih =>
    obtain ⟨⟨t, r⟩, ht, heq⟩ := Option.map_eq_some_iff.1 h
    obtain ⟨-, rfl⟩ := Prod.mk.inj heq
    have := ih ht
    simp only [List.length_cons]
    omega

/-- The text as it is written between quotes. In the form that is not strict, pairs of a backslash
and a character stay together. -/
def escape (strict : Bool) (quote : Char) : List Char → List Char
  | [] => []
  | '\\' :: [] => if strict then ['\\', '\\'] else ['\\']
  | '\\' :: c :: rest =>
    if strict then '\\' :: '\\' :: escape strict quote (c :: rest)
    else if c == quote then '\\' :: '\\' :: c :: escape strict quote rest
    else '\\' :: c :: escape strict quote rest
  | c :: rest =>
    if c == quote then '\\' :: c :: escape strict quote rest else c :: escape strict quote rest

end SpanSearch.Quoted
