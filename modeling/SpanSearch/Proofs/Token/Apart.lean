import SpanSearch.Proofs.Token.Lossless

/-! # Tokens that stay apart

A run of tokens is cut in the same way once more just when no token extends into the text after it.
The tokens of a text are apart, and so is every part of them, since a token does not extend any
further if less stands after it.
-/

namespace SpanSearch

open Unicode Pattern

namespace Cut

variable {b cs token : List Char}

/-- White space at the end of the text after a token makes no difference to the token. -/
theorem extends_append_blank (blank : Blank b) : Extends token (cs ++ b) ↔ Extends token cs := by
  cases b with
  | nil => rw [List.append_nil]
  | cons s b => exact extends_space (blank s List.mem_cons_self)

theorem tokens_blank_append (cut : Cut) (blank : Blank b) (cs : List Char) :
    cut.tokens (b ++ cs) = cut.tokens cs := by
  cases starts : trimStart cs with
  | nil =>
    have empty := blank_iff_trimStart.2 starts
    rw [cut.tokens_of_blank empty, cut.tokens_of_blank (List.forall_mem_append.2 ⟨blank, empty⟩)]
  | cons c rest =>
    have starts' := (blank.trimStart_append cs).trans starts
    rw [cut.tokens_of_trimStart starts, cut.tokens_of_trimStart starts']

/-- What the standard rule takes does not extend into what it leaves. -/
theorem not_extends_takeStandard {c : Char} (solid : isSpace c = false) (cs : List Char) :
    ¬ Extends (c :: (takeStandard c cs).1) (takeStandard c cs).2 := by
  rw [← (isToken_takeStandard solid cs).takeStandard_eq_iff, append_takeStandard]

end Cut

namespace Token

/-- Whether no token extends into the text after it. -/
def Apart : List Token → Prop
  | [] => True
  | t :: ts => ¬ Cut.Extends t.text.toList (t.space.toList ++ written ts) ∧ Apart ts

/-- Whether a token of a run extends beyond it if the text of other tokens follows. -/
def Glues (before after : List Token) : Prop :=
  ∃ front t between, before = front ++ t :: between
    ∧ Cut.Extends t.text.toList (t.space.toList ++ written (between ++ after))

variable {t : Token} {ts us : List Token}

theorem glues_cons : Glues (t :: ts) us
    ↔ Cut.Extends t.text.toList (t.space.toList ++ written (ts ++ us)) ∨ Glues ts us := by
  constructor
  · rintro ⟨front, u, between, eq, extends_⟩
    cases front with
    | nil =>
      obtain ⟨rfl, rfl⟩ := List.cons.inj eq
      exact .inl extends_
    | cons v front =>
      obtain ⟨rfl, rfl⟩ := List.cons.inj eq
      exact .inr ⟨front, u, between, rfl, extends_⟩
  · rintro (extends_ | ⟨front, u, between, rfl, extends_⟩)
    · exact ⟨[], t, ts, rfl, extends_⟩
    · exact ⟨t :: front, u, between, rfl, extends_⟩

/-- Two runs in a row are apart just when the second is and no token of the first extends. -/
theorem apart_append : Apart (ts ++ us) ↔ ¬ Glues ts us ∧ Apart us := by
  induction ts with
  | nil =>
    have none : ¬ Glues [] us := by
      rintro ⟨front, t, between, eq, -⟩
      simp at eq
    simp [none]
  | cons t ts ih =>
    rw [List.cons_append, Apart, ih, glues_cons, not_or, and_assoc]

/-- Less text after a run leaves it apart. -/
theorem Apart.left (apart : Apart (ts ++ us)) : Apart ts := by
  induction ts with
  | nil => trivial
  | cons t ts ih =>
    rw [List.cons_append] at apart
    refine ⟨fun extends_ => apart.1 ?_, ih apart.2⟩
    rw [written_append, ← List.append_assoc]
    exact extends_.append _

theorem Apart.right (apart : Apart (ts ++ us)) : Apart us := (apart_append.1 apart).2

theorem Apart.take (apart : Apart ts) (n : Nat) : Apart (ts.take n) := by
  rw [← List.take_append_drop n ts] at apart
  exact apart.left

theorem Apart.drop (apart : Apart ts) (n : Nat) : Apart (ts.drop n) := by
  rw [← List.take_append_drop n ts] at apart
  exact apart.right

/-- A token is cut off a text again just when it does not extend into the text after it. -/
theorem tokens_text_append (clean : t.Clean) (after : List Char) (texts : List String) :
    (Cut.standard.tokens (t.text.toList ++ after)).map (·.text) = t.text :: texts
      ↔ ¬ Cut.Extends t.text.toList after
        ∧ (Cut.standard.tokens after).map (·.text) = texts := by
  obtain ⟨c, run, eq, solid⟩ := clean.exists_cons
  have isToken : Cut.IsToken (c :: run) := eq ▸ clean.isToken
  have starts : trimStart (t.text.toList ++ after) = c :: (run ++ after) := by
    rw [eq]
    exact trimStart_cons solid (run ++ after)
  have text : t.text = String.ofList (c :: run) := by rw [← eq, String.ofList_toList]
  have whole := Cut.append_takeStandard c (run ++ after)
  rw [Cut.standard.tokens_of_trimStart starts, eq, ← isToken.takeStandard_eq_iff, text,
    List.map_cons, List.cons.injEq, String.ofList_inj, List.cons.injEq]
  constructor
  · rintro ⟨⟨-, first⟩, others⟩
    have taken : Cut.takeStandard c (run ++ after) = (run, after) := by
      rw [show (Cut.takeStandard c (run ++ after)).1 = run from first] at whole
      exact Prod.ext first (List.append_cancel_left whole)
    refine ⟨taken, ?_⟩
    rwa [show Cut.standard.take c (run ++ after) = (run, after) from taken] at others
  · rintro ⟨taken, others⟩
    rw [show Cut.standard.take c (run ++ after) = (run, after) from taken]
    exact ⟨⟨rfl, rfl⟩, others⟩

/-- The text of a run of tokens is cut into them again just when they are apart. -/
theorem tokens_join_iff (clean : ∀ t ∈ ts, t.Clean) :
    (Cut.standard.tokens (join ts).toList).map (·.text) = ts.map (·.text) ↔ Apart ts := by
  have empty : Cut.standard.tokens [] = [] := Cut.standard.tokens_of_blank blank_nil
  induction ts with
  | nil =>
    rw [show (join []).toList = [] from rfl, empty]
    simp [Apart]
  | cons t ts ih =>
    obtain ⟨first, others⟩ := List.forall_mem_cons.1 clean
    cases ts with
    | nil =>
      have apart : Apart [t] := by
        refine ⟨?_, trivial⟩
        rw [written_nil, List.append_nil, ← List.nil_append t.space.toList,
          Cut.extends_append_blank first.blank]
        exact Cut.not_extends_nil
      have alone := (tokens_text_append first [] []).2
        ⟨Cut.not_extends_nil, congrArg (List.map _) empty⟩
      rw [List.append_nil] at alone
      exact iff_of_true alone apart
    | cons u ts =>
      obtain ⟨b, blank, eq⟩ := exists_written others
      rw [join_cons_cons, List.map_cons, tokens_text_append first,
        Cut.tokens_blank_append _ first.blank, Apart, eq, ← List.append_assoc,
        Cut.extends_append_blank blank]
      exact and_congr_right fun _ => ih others

/-! ## Blanks between runs -/

@[simp] theorem spaced_text (t : Token) : t.spaced.text = t.text := by
  unfold spaced
  split <;> rfl

theorem Clean.exists_spaced (clean : t.Clean) :
    ∃ s rest, t.spaced.space.toList = s :: rest ∧ isSpace s = true := by
  unfold spaced
  split
  · exact ⟨' ', [], by simp, rfl⟩
  · next filled =>
    cases eq : t.space.toList with
    | nil => simp [String.toList_eq_nil_iff.1 eq] at filled
    | cons s rest => exact ⟨s, rest, rfl, clean.blank s (by simp [eq])⟩

theorem Clean.spaced (clean : t.Clean) : t.spaced.Clean := by
  refine ⟨by simpa using clean.isToken, ?_⟩
  unfold Token.spaced
  split
  · intro c mem
    obtain rfl : c = ' ' := by simpa using mem
    rfl
  · exact clean.blank

theorem spaceLast_concat (ts : List Token) (t : Token) :
    spaceLast (ts ++ [t]) = ts ++ [t.spaced] := by
  rw [spaceLast, List.length_append, List.length_singleton, Nat.add_sub_cancel]
  induction ts with
  | nil => rfl
  | cons u ts ih => exact congrArg (u :: ·) ih

theorem clean_spaceLast (clean : ∀ t ∈ ts, t.Clean) : ∀ t ∈ spaceLast ts, t.Clean := by
  rcases List.eq_nil_or_concat' ts with rfl | ⟨front, last, rfl⟩
  · exact clean
  · obtain ⟨earlier, final⟩ := List.forall_mem_append.1 clean
    rw [spaceLast_concat]
    refine List.forall_mem_append.2 ⟨earlier, ?_⟩
    rw [List.forall_mem_singleton] at final ⊢
    exact final.spaced

/-- With a blank after the first of two runs that are apart, they are apart in a row. -/
theorem Apart.spaceLast_append (clean : ∀ t ∈ ts, t.Clean) (apart : Apart ts)
    (apart' : Apart us) : Apart (spaceLast ts ++ us) := by
  rcases List.eq_nil_or_concat' ts with rfl | ⟨front, last, rfl⟩
  · exact apart'
  · obtain ⟨s, rest, eq, space⟩ :=
      (clean last (List.mem_append_right front List.mem_cons_self)).exists_spaced
    rw [spaceLast_concat, List.append_assoc]
    refine apart_append.2 ⟨?_, ?_, apart'⟩
    · -- what a token extends into is the text before the blank, which stood there already
      rintro ⟨front', t, between, rfl, extends_⟩
      refine (apart_append.1 apart).1 ⟨front', t, between, rfl, ?_⟩
      have before : t.space.toList ++ written (between ++ ([last.spaced] ++ us))
          = (t.space.toList ++ (written between ++ last.text.toList))
            ++ s :: (rest ++ written us) := by
        simp [eq]
      rw [before, Cut.extends_space space] at extends_
      simpa using extends_.append last.space.toList
    · rw [spaced_text, eq, ← List.nil_append (_ ++ _), List.cons_append, Cut.extends_space space]
      exact Cut.not_extends_nil

/-- The tokens of a text are apart. -/
theorem apart_tokens (cs : List Char) : Apart (Cut.standard.tokens cs) := by
  induction cs using Cut.tokens.induct .standard with
  | case1 cs none =>
    rw [Cut.tokens_of_blank _ (blank_iff_trimStart.2 none)]
    trivial
  | case2 cs c rest starts token ih =>
    rw [Cut.tokens_of_trimStart _ starts]
    refine ⟨?_, ih⟩
    rw [Cut.written_tokens]
    simp only [String.toList_ofList]
    rw [trimStart, List.takeWhile_append_dropWhile]
    exact Cut.not_extends_takeStandard (solid_of_trimStart starts) rest

end Token

end SpanSearch
