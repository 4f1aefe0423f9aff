import SpanSearch.Proofs.Layout.Parts

/-! # Where layouts break a text

A text that stays as it is on one line is glued together, or is broken over several lines.
-/

namespace SpanSearch.Layout

open Unicode Pattern

/-- Whether a line has no white space at its ends. -/
structure Tidy (line : List Char) : Prop where
  starts : ∃ c rest, line = c :: rest ∧ isSpace c = false
  ends : ∃ text c, line = text ++ [c] ∧ isSpace c = false

section

variable {c d : Char} {w cs line text : List Char} {seg : Segment} {segs : List Segment}
  {last : Option Char} {pending : Bool}

theorem Tidy.trim_eq (h : Tidy line) : trim line = line := by
  obtain ⟨c, rest, eq, noSpace⟩ := h.starts
  obtain ⟨text, d, eq', noSpace'⟩ := h.ends
  have start : trimStart line = line := by
    rw [eq]
    exact trimStart_cons noSpace rest
  rw [trim, start, eq', trimEnd_append noSpace']
  rfl

theorem Tidy.ne_nil (h : Tidy line) : line ≠ [] := by
  obtain ⟨c, rest, rfl, -⟩ := h.starts
  exact List.cons_ne_nil c rest

theorem Tidy.append (h : Tidy line) (ends : ∀ d ∈ text.getLast?, isSpace d = false) :
    Tidy (line ++ text) := by
  obtain ⟨c, rest, rfl, noSpace⟩ := h.starts
  refine ⟨⟨c, rest ++ text, rfl, noSpace⟩, ?_⟩
  obtain rfl | ⟨init, d, rfl⟩ := List.eq_nil_or_concat text
  · rw [List.append_nil]
    exact h.ends
  · exact ⟨c :: rest ++ init, d, by simp, ends d (by simp)⟩

theorem Tidy.writeLine (h : Tidy line) (depth : Nat) :
    writeLine (depth, line) = List.replicate depth '\t' ++ line ++ ['\n'] := by
  rw [Layout.writeLine]
  dsimp only
  rw [h.trim_eq, if_neg (by simp [h.ne_nil])]

/-! ## On one line -/

theorem head_oneLine (noSpace : isSpace c = false) (text : List Char) :
    (Segment.verbatim (c :: text)).oneLine.head? = some c := by
  rw [Segment.oneLine]
  split
  · rw [collapse_char noSpace, due_none]
    rfl
  · split
    · rw [List.filter_cons_of_pos (by simp [noSpace])]
      rfl
    · rfl

/-- White space on one line is a blank. -/
theorem Parts.head_oneLine (h : Parts cs segs) (last : Option Char) (pending : Bool) :
    ∀ c ∈ (oneLine last pending segs).head?, c = ' ' ∨ isSpace c = false := by
  have spaced {b text : List Char} (blank : b = [] ∨ b = [' '])
      (starts : ∃ c, text.head? = some c ∧ isSpace c = false) (cs : List Char) :
      ∀ c ∈ (b ++ (text ++ cs)).head?, c = ' ' ∨ isSpace c = false := by
    obtain ⟨c, first, noSpace⟩ := starts
    rintro d mem
    rcases blank with rfl | rfl
    · right
      rw [List.nil_append, List.head?_append, first, Option.some_or] at mem
      cases mem
      exact noSpace
    · left
      cases mem
      rfl
  have due (b : Bool) : (if b then [' '] else []) = [] ∨ (if b then [' '] else []) = [' '] := by
    cases b
    · exact .inl rfl
    · exact .inr rfl
  induction h generalizing last pending with
  | nil => simp [oneLine]
  | space blank nonempty others ih =>
    rw [oneLine]
    exact ih last true
  | @mark c cs segs noSpace others ih =>
    rw [oneLine_cons Segment.noConfusion]
    exact spaced (due _) ⟨c, rfl, noSpace⟩ _
  | @verbatim c text cs segs noSpace ends others ih =>
    rw [oneLine_cons Segment.noConfusion]
    exact spaced (due _) ⟨c, Layout.head_oneLine noSpace text, noSpace⟩ _

/-! ## Over several lines -/

/-- Whether the lines of segments break a text, with more text on either side of the break and no
white space left out. -/
def Broken (line w : List Char) (segs : List Segment) : Prop :=
  ∃ before c after more, w = before ++ c :: after ∧ c ≠ '\n'
    ∧ written 0 line segs = line ++ (before ++ '\n' :: more)
    ∧ (before = [] → ∀ seg ∈ segs.head?, seg.isSuffix = false)

theorem broken_here (tidy : Tidy line) (noLine : ∀ c ∈ w.head?, c ≠ '\n') (nonempty : w ≠ [])
    (suffix : seg.isSuffix = false) {rows : List (Nat × List Char)}
    (breaks : lines 0 line (seg :: segs) = (0, line) :: rows) : Broken line w (seg :: segs) := by
  obtain ⟨c, rest, rfl⟩ := List.exists_cons_of_ne_nil nonempty
  refine ⟨[], c, rest, rows.flatMap writeLine, rfl, noLine c rfl, ?_, ?_⟩
  · rw [written, breaks, written_cons, tidy.writeLine]
    simp
  · rintro - seg ⟨rfl⟩
    exact suffix

theorem Broken.prepend (h : Broken (line ++ text) cs segs) (nonempty : text ≠ [])
    (same : written 0 line (seg :: segs) = written 0 (line ++ text) segs) :
    Broken line (text ++ cs) (seg :: segs) := by
  obtain ⟨before, c, after, more, rfl, noLine, eq, -⟩ := h
  refine ⟨text ++ before, c, after, more, by simp, noLine, by simp [same, eq], fun empty => ?_⟩
  exact absurd (List.append_eq_nil_iff.1 empty).1 nonempty

theorem Parts.eq_nil (h : Parts cs segs) (empty : cs = []) : segs = [] := by
  cases h with
  | nil => rfl
  | space blank nonempty => exact absurd (List.append_eq_nil_iff.1 empty).1 nonempty
  | mark => cases empty
  | verbatim => cases empty

theorem ne_newline (noSpace : isSpace c = false) : c ≠ '\n' := by
  rintro rfl
  cases noSpace

/-- A mark ends the line before it, or is appended to it. -/
theorem breaks_or_goesOn_mark (c : Char) (depth : Nat) (line : List Char) (segs : List Segment) :
    ((Segment.mark c).isSuffix = false
        ∧ ∃ rows, lines depth line (.mark c :: segs) = (depth, line) :: rows)
      ∨ (c ≠ '(' ∧ c ≠ ')' ∧ c ≠ '|')
        ∧ lines depth line (.mark c :: segs) = lines depth (line ++ [c]) segs := by
  by_cases opening : c = '('
  · subst opening
    exact .inl ⟨rfl, _, lines_opening depth line segs⟩
  · by_cases closing : c = ')'
    · subst closing
      exact .inl ⟨rfl, _, lines_closing depth line segs⟩
    · by_cases bar : c = '|'
      · subst bar
        exact .inl ⟨rfl, _, lines_bar depth line segs⟩
      · exact .inr ⟨⟨opening, closing, bar⟩, lines_mark opening closing bar depth line segs⟩

/-- Text between delimiters ends the line before it, since it starts an element, or is appended to
it. -/
theorem breaks_or_goesOn_verbatim (tidy : Tidy line) (depth : Nat) (w : List Char)
    (segs : List Segment) :
    ((Segment.verbatim w).isSuffix = false
        ∧ ∃ rows, lines depth line (.verbatim w :: segs) = (depth, line) :: rows)
      ∨ (startsElement w = true → line.getLast? = some ':')
        ∧ lines depth line (.verbatim w :: segs) = lines depth (line ++ w) segs := by
  by_cases breaks : startsElement w = true ∧ line.getLast? ≠ some ':'
  · have filled : trim line ≠ [] := by
      rw [tidy.trim_eq]
      exact tidy.ne_nil
    refine .inl ⟨?_, _, lines_element breaks.1 filled breaks.2 depth segs⟩
    rw [← Bool.not_eq_true]
    intro suffix
    rw [startsElement_suffix suffix] at breaks
    cases breaks.1
  · have colon : startsElement w = true → line.getLast? = some ':' := fun starts => by
      by_contra other
      exact breaks ⟨starts, other⟩
    exact .inr ⟨colon, lines_verbatim colon depth segs⟩

/-- White space before a suffix is left out on one line. So nothing that stays there is a suffix. -/
theorem Parts.noSuffix {b : List Char} (h : Parts cs (seg :: segs)) (nonempty : b ≠ [])
    (same : oneLine last true (seg :: segs) = b ++ cs) : seg.isSuffix = false := by
  rw [← Bool.not_eq_true]
  intro suffix
  have notSpace : seg ≠ .space := by
    rintro rfl
    cases suffix
  rw [oneLine_suffix notSpace suffix] at same
  have short := length_oneLine_le (seg :: segs) last false
  have fits := h.room_le
  have some := List.length_pos_iff.2 nonempty
  rw [same, List.length_append, Bool.toNat_false] at short
  omega

theorem glued_or_broken (h : Parts w segs) (same : oneLine last false segs = w) (tidy : Tidy line)
    (before : line.getLast? = last) : Glued last w segs ∨ Broken line w segs := by
  induction h generalizing last line with
  | nil => exact .inl .nil
  | @space b cs segs blank nonempty others ih =>
    rw [oneLine] at same
    have filled : b ++ cs ≠ [] := fun empty => nonempty (List.append_eq_nil_iff.1 empty).1
    cases segs with
    | nil =>
      rw [oneLine] at same
      exact absurd same.symm filled
    | cons seg segs =>
      right
      have noSuffix := others.noSuffix nonempty same
      refine broken_here tidy (fun d first => ?_) filled rfl (lines_space (by simpa) 0 line)
      rw [← same] at first
      rcases others.head_oneLine last true d first with rfl | noSpace
      · decide
      · exact ne_newline noSpace
  | @mark c cs segs noSpace others ih =>
    have noLine : ∀ d ∈ (c :: cs).head?, d ≠ '\n' := by
      rintro d ⟨rfl⟩
      exact ne_newline noSpace
    rcases breaks_or_goesOn_mark c 0 line segs
      with ⟨noSuffix, rows, breaks⟩ | ⟨⟨opening, closing, bar⟩, goesOn⟩
    · exact .inr (broken_here tidy noLine (List.cons_ne_nil _ _) noSuffix breaks)
    · have next := @oneLine_next (.mark c) Segment.noConfusion last segs
      rw [next] at same
      have later : oneLine (some c) false segs = cs := (List.cons.inj same).2
      have tidy' : Tidy (line ++ [c]) := tidy.append (by rintro d ⟨rfl⟩; exact noSpace)
      refine (ih later tidy' (by simp)).imp (.mark opening closing bar) fun broken => ?_
      refine broken.prepend (List.cons_ne_nil _ _) ?_
      rw [written, goesOn]
      rfl
  | @verbatim c text cs segs noSpace ends others ih =>
    have next := @oneLine_next (.verbatim (c :: text)) Segment.noConfusion last segs
    rw [next, ← List.cons_append] at same
    -- neither part gets longer on one line, so both stay as they are
    have short := length_oneLine (.verbatim (c :: text))
    have short' := length_oneLine_le segs (Segment.verbatim (c :: text)).oneLine.getLast? false
    have fits := others.room_le
    have total := congrArg List.length same
    rw [List.length_append, List.length_append] at total
    simp only [Segment.room, Bool.toNat_false] at short short'
    obtain ⟨asIs, later⟩ := List.append_inj same (by omega)
    rw [asIs] at later
    rcases breaks_or_goesOn_verbatim tidy 0 (c :: text) segs
      with ⟨noSuffix, rows, breaks⟩ | ⟨starts, goesOn⟩
    · refine .inr (broken_here tidy ?_ (List.cons_ne_nil _ _) noSuffix breaks)
      rintro d ⟨rfl⟩
      exact ne_newline noSpace
    · rw [before] at starts
      rw [← List.cons_append]
      by_cases done : cs = []
      · obtain rfl := others.eq_nil done
        subst done
        exact .inl (.verbatim (List.cons_ne_nil _ _) asIs starts .nil)
      · refine (ih later (tidy.append (ends done)) ?_).imp
          (.verbatim (List.cons_ne_nil _ _) asIs starts) fun broken => ?_
        · simp [List.getLast?_append, List.getLast?_cons]
        · refine broken.prepend (List.cons_ne_nil _ _) ?_
          rw [written, goesOn]
          rfl

end

end SpanSearch.Layout
