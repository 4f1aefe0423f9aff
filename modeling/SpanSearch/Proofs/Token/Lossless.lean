import Mathlib.Data.List.Basic
import SpanSearch.Document.Basic
import SpanSearch.Proofs.Token.Shapes

/-! # What tokens keep of a text

The tokens of a text with the white space after them are the text, apart from the white space at its
start. So the text of all tokens of a document is the trimmed text that it was made of.
-/

namespace SpanSearch

open Unicode Pattern

namespace Token

/-- The text of tokens with the white space after each. -/
def written (ts : List Token) : List Char := ts.flatMap fun t => t.text.toList ++ t.space.toList

/-- Whether the text of a token is one, and what stands after it is white space. -/
structure Clean (t : Token) : Prop where
  isToken : Cut.IsToken t.text.toList
  blank : Blank t.space.toList

section

variable {t : Token} {ts : List Token}

@[simp] theorem written_nil : written [] = [] := rfl

@[simp] theorem written_cons (t : Token) (ts : List Token) :
    written (t :: ts) = t.text.toList ++ (t.space.toList ++ written ts) :=
  List.append_assoc ..

@[simp] theorem written_append (ts us : List Token) :
    written (ts ++ us) = written ts ++ written us :=
  List.flatMap_append

theorem Clean.exists_cons (clean : t.Clean) :
    ∃ c run, t.text.toList = c :: run ∧ isSpace c = false := by
  obtain ⟨c, run, eq⟩ := List.exists_cons_of_ne_nil clean.isToken.ne_nil
  exact ⟨c, run, eq, clean.isToken.solid c (by simp [eq])⟩

theorem Clean.exists_concat (clean : t.Clean) :
    ∃ run c, t.text.toList = run ++ [c] ∧ isSpace c = false := by
  obtain ⟨run, c, eq⟩ := (List.eq_nil_or_concat' t.text.toList).resolve_left clean.isToken.ne_nil
  exact ⟨run, c, eq, clean.isToken.solid c (by simp [eq])⟩

theorem join_cons_cons (t u : Token) (ts : List Token) :
    (join (t :: u :: ts)).toList
      = t.text.toList ++ (t.space.toList ++ (join (u :: ts)).toList) := by
  simp [join]

/-- The text of a run of tokens leaves out the white space after the last. -/
theorem exists_written (clean : ∀ t ∈ ts, t.Clean) :
    ∃ b, Blank b ∧ written ts = (join ts).toList ++ b := by
  induction ts with
  | nil => exact ⟨[], blank_nil, rfl⟩
  | cons t ts ih =>
    obtain ⟨first, others⟩ := List.forall_mem_cons.1 clean
    cases ts with
    | nil => exact ⟨t.space.toList, first.blank, by simp [join]⟩
    | cons u ts =>
      obtain ⟨b, blank, eq⟩ := ih others
      refine ⟨b, blank, ?_⟩
      rw [written_cons, eq, join_cons_cons, List.append_assoc, List.append_assoc]

/-- The text of a run of tokens ends with the last of them. -/
theorem exists_join_concat (clean : ∀ t ∈ ts, t.Clean) (nonempty : ts ≠ []) :
    ∃ run c, (join ts).toList = run ++ [c] ∧ isSpace c = false := by
  induction ts with
  | nil => exact absurd rfl nonempty
  | cons t ts ih =>
    obtain ⟨first, others⟩ := List.forall_mem_cons.1 clean
    cases ts with
    | nil => exact first.exists_concat
    | cons u ts =>
      obtain ⟨run, c, eq, solid⟩ := ih others (List.cons_ne_nil u ts)
      refine ⟨t.text.toList ++ (t.space.toList ++ run), c, ?_, solid⟩
      rw [join_cons_cons, eq, List.append_assoc, List.append_assoc]

theorem trimEnd_written (clean : ∀ t ∈ ts, t.Clean) :
    trimEnd (written ts) = (join ts).toList := by
  obtain ⟨b, blank, eq⟩ := exists_written clean
  cases ts with
  | nil => rfl
  | cons t ts =>
    obtain ⟨run, c, ends, solid⟩ := exists_join_concat clean (List.cons_ne_nil t ts)
    rw [eq, ends, List.append_assoc, List.singleton_append, trimEnd_append solid,
      trimEnd_blank blank]

end

end Token

namespace Cut

open Token

variable {b cs rest : List Char} {c : Char}

theorem tokens_of_blank (cut : Cut) (blank : Blank cs) : cut.tokens cs = [] := by
  rw [tokens]
  split
  · rfl
  · next starts =>
    rw [blank_iff_trimStart.1 blank] at starts
    cases starts

theorem tokens_of_trimStart (cut : Cut) (starts : trimStart cs = c :: rest) :
    cut.tokens cs =
      { text := String.ofList (c :: (cut.take c rest).1)
        space := String.ofList ((cut.take c rest).2.takeWhile isSpace)
        flags := .empty } :: cut.tokens (cut.take c rest).2 := by
  rw [tokens]
  split
  · next none =>
    rw [none] at starts
    cases starts
  · next starts' =>
    obtain ⟨rfl, rfl⟩ := List.cons.inj (starts.symm.trans starts')
    rfl

theorem clean_tokens (cs : List Char) : ∀ t ∈ standard.tokens cs, t.Clean := by
  induction cs using tokens.induct standard with
  | case1 cs none =>
    rw [standard.tokens_of_blank (blank_iff_trimStart.2 none)]
    exact fun t mem => nomatch mem
  | case2 cs c rest starts token ih =>
    rw [standard.tokens_of_trimStart starts]
    refine List.forall_mem_cons.2 ⟨⟨?_, ?_⟩, ih⟩
    · rw [String.toList_ofList]
      exact isToken_takeStandard (solid_of_trimStart starts) rest
    · rw [String.toList_ofList]
      exact fun d mem => List.mem_takeWhile_imp mem

theorem written_tokens (cs : List Char) : written (standard.tokens cs) = trimStart cs := by
  induction cs using tokens.induct standard with
  | case1 cs none =>
    rw [standard.tokens_of_blank (blank_iff_trimStart.2 none), none]
    rfl
  | case2 cs c rest starts token ih =>
    rw [standard.tokens_of_trimStart starts, written_cons, ih, starts]
    simp only [String.toList_ofList]
    rw [trimStart, List.takeWhile_append_dropWhile, List.cons_append]
    congr 1
    exact append_takeStandard c rest

end Cut

namespace Document

/-- The standard tokenizer keeps the whole text. Its tokens are not empty and without white space,
and what is kept between them is white space alone. -/
theorem tokens_lossless (text : String) :
    (∀ t ∈ Tokenizer.standard.tokens text,
        t.text ≠ "" ∧ (∀ c ∈ t.text.toList, isSpace c = false)
          ∧ ∀ c ∈ t.space.toList, isSpace c = true)
      ∧ text.toList
        = text.toList.takeWhile isSpace ++ Token.written (Tokenizer.standard.tokens text)
      ∧ Token.textOf (ofText .standard text).tokens 0 (ofText .standard text).tokens.length
        = String.ofList (trim text.toList) := by
  refine ⟨fun t mem => ?_, ?_, ?_⟩
  · have clean := Cut.clean_tokens text.toList t mem
    refine ⟨?_, clean.isToken.solid, clean.blank⟩
    intro empty
    exact clean.isToken.ne_nil (by rw [empty]; rfl)
  · have written := Cut.written_tokens text.toList
    exact (List.takeWhile_append_dropWhile).symm.trans (congrArg _ written.symm)
  · have whole := Token.trimEnd_written (Cut.clean_tokens text.toList)
    rw [Cut.written_tokens] at whole
    rw [Token.textOf, List.take_length, List.drop_zero, trim, whole, String.ofList_toList]
    rfl

/-- A number keeps its mark, and the two blanks after it. -/
theorem tokens_lossless_number :
    let number : Token := ⟨"1,5", "  ", .empty⟩
    number ∈ Tokenizer.standard.tokens " 1,5  (x-y) "
      ∧ (number.text ≠ "" ∧ (∀ c ∈ number.text.toList, isSpace c = false)
        ∧ ∀ c ∈ number.space.toList, isSpace c = true)
      ∧ Token.textOf (ofText .standard " 1,5  (x-y) ").tokens 0
          (ofText .standard " 1,5  (x-y) ").tokens.length = "1,5  (x-y)" := by
  intro number
  have mem : number ∈ Tokenizer.standard.tokens " 1,5  (x-y) " := by decide +kernel
  have trimmed : trim " 1,5  (x-y) ".toList = "1,5  (x-y)".toList := by decide +kernel
  obtain ⟨each, -, whole⟩ := tokens_lossless " 1,5  (x-y) "
  rw [trimmed, String.ofList_toList] at whole
  exact ⟨mem, each number mem, whole⟩

end Document

end SpanSearch
