import SpanSearch.Proofs.Layout.Contexts

/-! # Texts that stay on one line

The layout on one line has nothing to do on what it has laid out, as far as it cuts that at the same
places again. So it is with all words but setters, and with setters that are steady.
-/

namespace SpanSearch.Layout

open Unicode Pattern

/-- A text on one line. -/
def onLine (w : List Char) : List Char := oneLine none false (segments w)

/-- Whether a text is cut off from what comes after it, as it is written and on one line, and stays
as it is when it is put on one line again. -/
structure Steady (w : List Char) : Prop where
  parted : Parted w
  again : Parted (onLine w)
  same : onLine (onLine w) = onLine w

section

variable {options : Options} {p : Piece} {ps : List Piece} {seg : Segment}
  {segs : List Segment} {c d : Char} {w cs : List Char}

/-! ## Segments on one line -/

/-- White space that has been written in a tag is written again, and all else stays. -/
theorem collapse_collapse (quote last : Option Char) (pending : Bool) (cs : List Char) :
    collapse quote last false (collapse quote last pending cs) = collapse quote last pending cs := by
  fun_induction collapse quote last pending cs with
  | case1 => rfl
  | case2 last pending q d rest ih => rw [collapse_pair, ih]
  | case3 last pending q c rest other ih =>
    by_cases backslash : c = '\\'
    · subst backslash
      -- a backslash that takes no character along is the last one
      cases rest with
      | nil => cbv
      | cons d rest => exact absurd rfl (other d rest rfl)
    · rw [collapse_quoted backslash, ih]
  | case4 last pending c rest space ih => exact ih
  | case5 last pending c rest noSpace text written ih =>
    obtain rfl : pending = true := by
      revert written
      cases pending <;> simp
    have due : due last true c = [' '] := if_pos written
    rw [collapse_space (by decide), collapse_char (by simpa using noSpace), due, ih]
    rfl
  | case6 last pending c rest noSpace text written ih =>
    rw [collapse_char (by simpa using noSpace), due_none, ih]
    rfl

theorem getLast?_collapse (noSpace : isSpace d = false) (quote last : Option Char) (pending : Bool)
    (cs : List Char) (ends : cs.getLast? = some d) :
    (collapse quote last pending cs).getLast? = some d := by
  have cons {c : Char} {text rest : List Char} (ends : (c :: rest).getLast? = some d)
      (ih : rest.getLast? = some d → text.getLast? = some d) (empty : rest = [] → text = []) :
      (c :: text).getLast? = some d := by
    cases rest with
    | nil => rwa [empty rfl]
    | cons e rest =>
      rw [List.getLast?_cons_cons] at ends
      rw [List.getLast?_cons, ih ends, Option.getD_some]
  fun_induction collapse quote last pending cs with
  | case1 => exact ends
  | case2 last pending q c rest ih =>
    rw [List.getLast?_cons_cons] at ends ⊢
    exact cons ends ih (by rintro rfl; rfl)
  | case3 last pending q c rest other ih =>
    exact cons ends ih (by rintro rfl; rfl)
  | case4 last pending c rest space ih =>
    refine ih ?_
    cases rest with
    | nil =>
      obtain rfl : c = d := by simpa using ends
      rw [space] at noSpace
      cases noSpace
    | cons e rest => rwa [List.getLast?_cons_cons] at ends
  | case5 last pending c rest noSpace text written ih =>
    rw [List.getLast?_cons_cons]
    exact cons ends ih (by rintro rfl; rfl)
  | case6 last pending c rest noSpace text written ih =>
    exact cons ends ih (by rintro rfl; rfl)

theorem getLast?_oneLine (noSpace : isSpace d = false) (text : List Char)
    (ends : text.getLast? = some d) : (Segment.verbatim text).oneLine.getLast? = some d := by
  rw [Segment.oneLine]
  split
  · exact getLast?_collapse noSpace none none false text ends
  · split
    · obtain ⟨init, rfl⟩ := List.getLast?_eq_some_iff.1 ends
      rw [List.filter_append, List.filter_singleton, noSpace]
      simp
    · exact ends

/-- A segment on one line is a segment that stays as it is. -/
theorem oneLine_oneLine (noSpace : isSpace c = false) (text : List Char) :
    (Segment.verbatim (Segment.verbatim (c :: text)).oneLine).oneLine
      = (Segment.verbatim (c :: text)).oneLine := by
  have first := head_oneLine noSpace text
  rw [Segment.oneLine, first]
  split
  · next tag =>
    rw [Segment.oneLine, if_pos (by simpa using tag), collapse_collapse]
  · next noTag =>
    split
    · next braces =>
      rw [Segment.oneLine, if_neg (by simpa using noTag), if_pos (by simpa using braces),
        List.filter_filter]
      simp
    · rfl

/-- Whether segments on one line end in a character, and what comes after them is written after that. -/
structure EndsIn (d : Char) (segs : List Segment) : Prop where
  last : ∀ last pending, (oneLine last pending segs).getLast? = some d
  append : ∀ last pending rest, oneLine last pending (segs ++ rest)
    = oneLine last pending segs ++ oneLine (some d) false rest

theorem endsIn_single (notSpace : seg ≠ .space) (ends : seg.oneLine.getLast? = some d) :
    EndsIn d [seg] := by
  refine ⟨fun last pending => ?_, fun last pending rest => ?_⟩
  · rw [oneLine_cons notSpace, oneLine, List.append_nil, List.getLast?_append, ends, Option.some_or]
  · rw [List.singleton_append, oneLine_cons notSpace, oneLine_cons notSpace, ends, oneLine]
    simp

theorem EndsIn.cons (h : EndsIn d segs) (seg : Segment) : EndsIn d (seg :: segs) := by
  by_cases isSpace : seg = .space
  · subst isSpace
    exact ⟨fun last pending => h.last last true, fun last pending rest => h.append last true rest⟩
  · refine ⟨fun last pending => ?_, fun last pending rest => ?_⟩
    · rw [oneLine_cons isSpace, List.getLast?_append, List.getLast?_append, h.last, Option.some_or,
        Option.some_or]
    · rw [List.cons_append, oneLine_cons isSpace, oneLine_cons isSpace, h.append]
      simp

theorem EndsIn.prepend (h : EndsIn d segs) (front : List Segment) : EndsIn d (front ++ segs) := by
  induction front with
  | nil => exact h
  | cons seg front ih => exact ih.cons seg

/-- A text ends on one line as it does otherwise. -/
theorem Parts.endsIn (h : Parts w segs) (ends : w.getLast? = some d) (noSpace : isSpace d = false) :
    EndsIn d segs := by
  induction h with
  | nil => cases ends
  | @space b cs segs blank nonempty others ih =>
    rw [List.getLast?_append, Option.or_eq_some_iff] at ends
    rcases ends with ends | ⟨-, ends⟩
    · exact (ih ends).cons .space
    · rw [blank d (List.mem_of_getLast? ends)] at noSpace
      cases noSpace
  | @mark c cs segs noSpace' others ih =>
    rw [← List.singleton_append, List.getLast?_append, Option.or_eq_some_iff] at ends
    rcases ends with ends | ⟨done, ends⟩
    · exact (ih ends).cons (.mark c)
    · obtain rfl := others.eq_nil (List.getLast?_eq_none_iff.1 done)
      exact endsIn_single Segment.noConfusion ends
  | @verbatim c text cs segs noSpace' inner others ih =>
    rw [← List.cons_append, List.getLast?_append, Option.or_eq_some_iff] at ends
    rcases ends with ends | ⟨done, ends⟩
    · exact (ih ends).cons (.verbatim (c :: text))
    · obtain rfl := others.eq_nil (List.getLast?_eq_none_iff.1 done)
      exact endsIn_single Segment.noConfusion (getLast?_oneLine noSpace _ ends)

theorem complete_onLine (complete : Complete w) (filled : w ≠ []) : Complete (onLine w) := by
  obtain ⟨d, ends⟩ : ∃ d, w.getLast? = some d := Option.isSome_iff_exists.1 (by simpa using filled)
  have last := ((parts_segments w).endsIn ends (complete d ends).1).last none false
  intro e last'
  rw [onLine, last] at last'
  exact complete e (ends.trans last')

/-- Whether white space stays before a segment is seen from the first character. -/
theorem exists_separates (noSpace : isSpace c = false) :
    ∃ b : Char → Bool, ∀ cs, ∃ seg segs, segments (c :: cs) = seg :: segs ∧ seg ≠ .space
      ∧ (∃ rest, seg.oneLine = c :: rest) ∧ (separates · seg) = b := by
  by_cases at? : c = '@'
  · subst at?
    refine ⟨fun _ => false, fun cs => ?_⟩
    obtain ⟨seg, segs, cut, isSuffix, notSpace, starts⟩ := segments_at cs
    refine ⟨seg, segs, cut, notSpace, starts, ?_⟩
    funext last
    simp [separates, isSuffix]
  · cases opens : closing? c with
    | none =>
      exact ⟨(separates · (.mark c)), fun cs => ⟨.mark c, segments cs,
        segments_mark noSpace opens fun scope => absurd scope at?, Segment.noConfusion, ⟨[], rfl⟩,
        rfl⟩⟩
    | some delimiter =>
      obtain ⟨closing, nested⟩ := delimiter
      refine ⟨fun last => last != '(' && last != '|' && !(c == '{' || c == '['), fun cs =>
        ⟨_, _, segments_verbatim noSpace opens rfl, Segment.noConfusion, ?_, ?_⟩⟩
      · exact List.head?_eq_some_iff.1 (head_oneLine noSpace _)
      · have noScope (text : List Char) : ['@', '('].isPrefixOf (c :: text) = false := by
          have other : ('@' == c) = false := by simpa using fun same => at? same.symm
          rw [List.isPrefixOf_cons_cons, other, Bool.false_and]
        have noMark (text : List Char) (d : Char) : (Segment.verbatim text != .mark d) = true :=
          bne_iff_ne.2 Segment.noConfusion
        funext last
        simp [separates, Segment.isSuffix, noScope, noMark]

/-- What the layout on one line does with a text that starts and ends with other characters than
white space, in front of others. -/
theorem exists_oneLine (noSpace : isSpace c = false) :
    ∃ b : Char → Bool, ∀ {cs d}, (c :: cs).getLast? = some d → isSpace d = false →
      ∀ last pending rest, oneLine last pending (segments (c :: cs) ++ rest)
        = (if pending && last.any b then [' '] else [])
          ++ (onLine (c :: cs) ++ oneLine (some d) false rest) := by
  obtain ⟨b, first⟩ := exists_separates noSpace
  refine ⟨b, fun {cs d} ends noSpace' last pending rest => ?_⟩
  obtain ⟨seg, segs, cut, notSpace, -, same⟩ := first cs
  rw [((parts_segments (c :: cs)).endsIn ends noSpace').append, onLine, cut,
    oneLine_cons notSpace, oneLine_next notSpace, same]
  simp

/-! ## Words -/

theorem head?_onLine (noSpace : isSpace c = false) (cs : List Char) :
    ∃ rest, onLine (c :: cs) = c :: rest := by
  obtain ⟨b, first⟩ := exists_separates noSpace
  obtain ⟨seg, segs, cut, notSpace, ⟨rest, starts⟩, -⟩ := first cs
  exact ⟨_, by rw [onLine, cut, oneLine_next notSpace, starts, List.cons_append]⟩

theorem onLine_of_cut (is : Is w seg) (cut : ∀ after, segments (w ++ after) = seg :: segments after) :
    Parted w ∧ onLine w = seg.oneLine := by
  have notSpace : seg ≠ .space := by
    rintro rfl
    cases is
  have alone : segments w = [seg] := by
    have whole := cut []
    rwa [List.append_nil, segments_nil] at whole
  refine ⟨fun after => by rw [cut, alone, List.singleton_append], ?_⟩
  rw [onLine, alone, oneLine_next notSpace, oneLine, List.append_nil]

/-- All words but setters are steady. -/
theorem steady_word (h : Word options w p) (other : ∀ s, p ≠ .setter s) : Steady w := by
  obtain ⟨seg, is, cut⟩ := segments_word h other
  obtain ⟨seg', is', cut'⟩ := segments_word (word_oneLine h is) other
  obtain ⟨parted, same⟩ := onLine_of_cut is cut
  obtain ⟨parted', same'⟩ := onLine_of_cut is' cut'
  refine ⟨parted, by rwa [same], ?_⟩
  rw [same, same']
  cases is with
  | mark c => exact same'.symm.trans same
  | verbatim w =>
    obtain ⟨c, text, rfl, noSpace, -⟩ := h.starts
    have again := oneLine_oneLine noSpace text
    generalize (Segment.verbatim (c :: text)).oneLine = line at is' again
    cases is' with
    | mark d => rfl
    | verbatim line => exact again

theorem Kept.steady (h : Kept w) : Steady w := by
  have asIs : onLine w = w := by
    have alone := h.inLine none false []
    rwa [List.append_nil, oneLine, List.append_nil] at alone
  exact ⟨h.parted, by rw [asIs]; exact h.parted, by rw [asIs, asIs]⟩

/-! ## Rows of words -/

/-- A row of steady words stays as it is when it is put on one line again. -/
theorem oneLine_steady (h : Written options cs ps)
    (steady : ∀ w p, Word options w p → p ∈ ps → Steady w) (last : Option Char) (pending : Bool) :
    oneLine last false (segments (oneLine last pending (segments cs)))
      = oneLine last pending (segments cs) := by
  induction h generalizing last pending with
  | @nil b blank =>
    have empty : oneLine last pending (segments b) = [] := by
      rw [segments_of_blank blank]
      split <;> rfl
    rw [empty, segments_nil, oneLine]
  | @cons b w cs p ps blank word others ih =>
    have later := ih fun w p word mem => steady w p word (.tail _ mem)
    obtain ⟨parted, again, same⟩ := steady w p word (.head _)
    obtain ⟨c, rest, rfl, noSpace, -⟩ := word.starts
    obtain ⟨text, d, eq, noSpace', -⟩ := last_of_word word
    have ends : (c :: rest).getLast? = some d := by simp [eq]
    obtain ⟨rest', starts⟩ := head?_onLine noSpace rest
    have ends' : (c :: rest').getLast? = some d := by
      rw [← starts]
      exact ((parts_segments (c :: rest)).endsIn ends noSpace').last none false
    obtain ⟨b', row⟩ := exists_oneLine noSpace
    -- the white space before the word is written again just if it was written
    have first : oneLine last pending (segments (b ++ (c :: rest ++ cs)))
        = oneLine last (pending || !b.isEmpty) (segments (c :: rest) ++ segments cs) := by
      rw [segments_blank blank (trimStart_word word cs), parted]
      cases b with
      | nil => simp
      | cons e b => simp [oneLine]
    rw [first, row ends noSpace']
    rw [starts] at again same ⊢
    split
    · next due =>
      obtain ⟨-, due⟩ := Bool.and_eq_true_iff.1 due
      rw [List.singleton_append, List.cons_append, segments_space (by decide),
        trimStart_cons noSpace, ← List.cons_append, again, oneLine, row ends' noSpace', same, later,
        if_pos (by simpa using due)]
      rfl
    · rw [List.nil_append, again, row ends' noSpace', same, later]
      rfl

end

end SpanSearch.Layout
