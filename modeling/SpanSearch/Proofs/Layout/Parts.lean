import Mathlib.Algebra.GroupWithZero.Nat
import SpanSearch.Proofs.Layout.Setters

/-! # What segments take up of a text

Segments make up the text that they are cut from. So a text is cut in the same way whatever stands
after it, unless a delimiter that it opens is not closed in it.
-/

namespace SpanSearch.Layout

open Unicode Pattern

/-! ## How far the scanner gets -/

/-- What the scanner makes of a text: it finds the closing delimiter, it still looks for it at the
end, or it ends with a backslash that waits for the next character. -/
inductive Scanned (opening closing : Char) (nested : Bool) (depth : Nat) (quote : Option Char)
    (cs : List Char) : Prop
  | closed (text rest : List Char) (whole : cs = text ++ closing :: rest)
      (split : ∀ after, splitDelimited opening closing nested depth quote (cs ++ after)
        = (text ++ [closing], rest ++ after))
  | still (depth' : Nat) (quote' : Option Char)
      (quoted : ∀ q ∈ quote', nested = true ∧ isQuote q = true)
      (split : ∀ after, splitDelimited opening closing nested depth quote (cs ++ after)
        = (cs ++ (splitDelimited opening closing nested depth' quote' after).1,
            (splitDelimited opening closing nested depth' quote' after).2))
  | cut (backslash : cs.getLast? = some '\\')
      (split : splitDelimited opening closing nested depth quote cs = (cs, []))

section

variable {opening closing : Char} {nested : Bool} {depth depth' : Nat} {quote quote' : Option Char}
  {cs : List Char}

theorem Scanned.prepend (text : List Char) (h : Scanned opening closing nested depth' quote' cs)
    (step : ∀ rest, splitDelimited opening closing nested depth quote (text ++ rest)
      = (text ++ (splitDelimited opening closing nested depth' quote' rest).1,
          (splitDelimited opening closing nested depth' quote' rest).2)) :
    Scanned opening closing nested depth quote (text ++ cs) := by
  cases h with
  | closed t rest whole split =>
    refine .closed (text ++ t) rest (by simp [whole]) fun after => ?_
    rw [List.append_assoc, step, split, List.append_assoc]
  | still depth'' quote'' quoted split =>
    refine .still depth'' quote'' quoted fun after => ?_
    rw [List.append_assoc, step, split, List.append_assoc]
  | cut backslash split =>
    refine .cut ?_ ?_
    · rw [List.getLast?_append, backslash, Option.some_or]
    · rw [step, split]

theorem scanned (quoted : ∀ q ∈ quote, nested = true ∧ isQuote q = true) (cs : List Char) :
    Scanned opening closing nested depth quote cs := by
  fun_induction Closes opening closing nested depth quote cs with
  | case1 depth quote => exact .still depth quote quoted fun after => rfl
  | case2 => exact .cut rfl rfl
  | case3 depth quote c cs ih => exact (ih quoted).prepend ['\\', c] (split_pair c)
  | case4 depth q c cs notLast notPair ih =>
    refine (ih ?_).prepend [c] (split_quoted (ne_backslash notLast notPair))
    split
    · simp
    · exact quoted
  | case5 depth c cs notLast notPair isQuote ih =>
    refine (ih ?_).prepend [c] fun rest => ?_
    · simpa using isQuote
    · rw [List.singleton_append, split_char (ne_backslash notLast notPair), if_pos isQuote]
      rfl
  | case6 depth c cs notLast notPair noQuote closes ih =>
    cases depth with
    | zero =>
      refine .closed [] cs (by simp [eq_of_beq closes]) fun after => ?_
      rw [List.cons_append, split_char (ne_backslash notLast notPair), if_neg noQuote,
        if_pos closes, eq_of_beq closes]
      rfl
    | succ depth =>
      refine (ih quoted).prepend [c] fun rest => ?_
      rw [List.singleton_append, split_char (ne_backslash notLast notPair), if_neg noQuote,
        if_pos closes]
      rfl
  | case7 depth c cs notLast notPair noQuote notClosing opens ih =>
    refine (ih quoted).prepend [c] fun rest => ?_
    rw [List.singleton_append, split_char (ne_backslash notLast notPair), if_neg noQuote,
      if_neg notClosing, if_pos opens]
    rfl
  | case8 depth c cs notLast notPair noQuote notClosing notOpening ih =>
    refine (ih quoted).prepend [c] fun rest => ?_
    rw [List.singleton_append, split_char (ne_backslash notLast notPair), if_neg noQuote,
      if_neg notClosing, if_neg notOpening]
    rfl

/-- Nothing is lost when a text is split, and what is split off ends with the closing delimiter,
unless it is all the text. -/
theorem splitDelimited_parts (quoted : ∀ q ∈ quote, nested = true ∧ isQuote q = true)
    (cs : List Char) :
    (splitDelimited opening closing nested depth quote cs).1
        ++ (splitDelimited opening closing nested depth quote cs).2 = cs
      ∧ ((splitDelimited opening closing nested depth quote cs).2 ≠ [] →
        (splitDelimited opening closing nested depth quote cs).1.getLast? = some closing) := by
  cases @scanned opening closing nested depth quote quoted cs with
  | closed text rest whole split =>
    have here := split []
    rw [List.append_nil, List.append_nil] at here
    rw [here]
    simp [whole]
  | still depth quote quoted split =>
    have here := split []
    rw [List.append_nil, splitDelimited, List.append_nil] at here
    simp [here]
  | cut backslash split => simp [split]

/-- Where no quote is open, nothing is to be known about it. -/
theorem unquoted : ∀ q ∈ (none : Option Char), nested = true ∧ isQuote q = true := by simp

end

/-! ## Parts -/

/-- Whether a text is made up of segments. -/
inductive Parts : List Char → List Segment → Prop
  | nil : Parts [] []
  | space {b cs : List Char} {segs : List Segment} (blank : Blank b) (nonempty : b ≠ [])
      (others : Parts cs segs) : Parts (b ++ cs) (.space :: segs)
  | mark {c : Char} {cs : List Char} {segs : List Segment} (noSpace : isSpace c = false)
      (others : Parts cs segs) : Parts (c :: cs) (.mark c :: segs)
  | verbatim {c : Char} {text cs : List Char} {segs : List Segment} (noSpace : isSpace c = false)
      (ends : cs ≠ [] → ∀ d ∈ (c :: text).getLast?, isSpace d = false) (others : Parts cs segs) :
      Parts (c :: (text ++ cs)) (.verbatim (c :: text) :: segs)

/-- The delimiters that the scanner knows, and whether quoted text may stand between them. -/
inductive Delimiters : Char → Char → Bool → Prop
  | apostrophe : Delimiters '\'' '\'' false
  | quotes : Delimiters '"' '"' false
  | tag : Delimiters '<' '>' true
  | brackets : Delimiters '[' ']' false
  | braces : Delimiters '{' '}' false
  | scope : Delimiters '(' ')' true

section

variable {c opening closing : Char} {nested : Bool} {cs text w : List Char} {seg : Segment}
  {segs : List Segment}

theorem delimiters_of_closing? (h : closing? c = some (closing, nested)) :
    Delimiters c closing nested := by
  unfold closing? at h
  split at h
  · next quote =>
    cases h
    simp only [isQuote, Bool.or_eq_true, beq_iff_eq] at quote
    rcases quote with rfl | rfl
    · exact .apostrophe
    · exact .quotes
  · split at h
    · next same =>
      cases h
      rw [eq_of_beq same]
      exact .tag
    · split at h
      · next same =>
        cases h
        rw [eq_of_beq same]
        exact .brackets
      · split at h
        · next same =>
          cases h
          rw [eq_of_beq same]
          exact .braces
        · cases h

theorem Delimiters.noSpace (h : Delimiters opening closing nested) : isSpace closing = false := by
  cases h <;> decide

theorem last_of_split (h : Delimiters opening closing nested) (cs : List Char)
    (more : (splitDelimited opening closing nested 0 none cs).2 ≠ []) :
    ∀ d ∈ (c :: (splitDelimited opening closing nested 0 none cs).1).getLast?,
      isSpace d = false := by
  have last := (splitDelimited_parts unquoted cs).2 more
  rw [List.getLast?_cons, last, Option.getD_some]
  rintro d ⟨rfl⟩
  exact h.noSpace

theorem parts_segments (cs : List Char) : Parts cs (segments cs) := by
  fun_induction segments cs with
  | case1 => exact .nil
  | case2 rest split ih =>
    have noSpace : isSpace '@' = false := by decide
    have ends : split.2 ≠ [] → ∀ d ∈ ('@' :: '(' :: split.1).getLast?, isSpace d = false := by
      rw [List.getLast?_cons_cons]
      exact last_of_split .scope rest
    have row := Parts.verbatim noSpace ends ih
    rwa [List.cons_append, (splitDelimited_parts unquoted rest).1] at row
  | case3 c rest notScope space ih =>
    obtain ⟨b, blank, eq⟩ := exists_blank rest
    have row := Parts.space (List.forall_mem_cons.2 ⟨space, blank⟩) (List.cons_ne_nil c b) ih
    rwa [List.cons_append, ← eq] at row
  | case4 c rest notScope noSpace closing nested opens split ih =>
    have row := Parts.verbatim (by simpa using noSpace) (last_of_split (delimiters_of_closing? opens) rest) ih
    rwa [(splitDelimited_parts unquoted rest).1] at row
  | case5 c rest notScope noSpace notOpening ih => exact .mark (by simpa using noSpace) ih

end

/-! ## Lengths -/

/-- The least number of characters that a segment is cut from. -/
def Segment.room : Segment → Nat
  | verbatim text => text.length
  | _ => 1

def room (segs : List Segment) : Nat := (segs.map Segment.room).sum

section

variable {cs : List Char} {segs : List Segment}

theorem length_collapse (quote last : Option Char) (pending : Bool) (cs : List Char) :
    (collapse quote last pending cs).length ≤ cs.length + pending.toNat := by
  fun_induction collapse quote last pending cs <;> grind

theorem room_cons (seg : Segment) (segs : List Segment) : room (seg :: segs) = seg.room + room segs := by
  simp [room]

theorem room_append (segs segs' : List Segment) : room (segs ++ segs') = room segs + room segs' := by
  simp [room]

theorem length_oneLine (seg : Segment) : seg.oneLine.length ≤ seg.room := by
  cases seg with
  | verbatim text =>
    rw [Segment.oneLine]
    split
    · exact length_collapse none none false text
    · split
      · exact List.length_filter_le _ _
      · exact Nat.le_refl _
  | mark c => exact Nat.le_refl _
  | space => exact Nat.zero_le _

theorem length_oneLine_le (segs : List Segment) (last : Option Char) (pending : Bool) :
    (oneLine last pending segs).length ≤ room segs + pending.toNat := by
  induction segs generalizing last pending with
  | nil => exact Nat.zero_le _
  | cons seg segs ih =>
    rw [room_cons]
    by_cases isSpace : seg = .space
    · subst isSpace
      rw [oneLine]
      have later := ih last true
      simp only [Segment.room, Bool.toNat_true] at later ⊢
      omega
    · have here := length_oneLine seg
      have later := ih seg.oneLine.getLast? false
      have blank : (if pending && last.any (separates · seg) then [' '] else []).length
          ≤ pending.toNat := by
        cases pending <;> simp 
        split <;> simp
      rw [oneLine_cons isSpace, List.length_append, List.length_append]
      simp only [Bool.toNat_false] at later
      omega

theorem Parts.room_le (h : Parts cs segs) : room segs ≤ cs.length := by
  induction h with
  | nil => exact Nat.le_refl _
  | space blank nonempty others ih =>
    have some := List.length_pos_iff.2 nonempty
    rw [room_cons, List.length_append]
    simp only [Segment.room]
    omega
  | mark noSpace others ih =>
    rw [room_cons, List.length_cons]
    simp only [Segment.room]
    omega
  | verbatim noSpace ends others ih =>
    rw [room_cons, List.length_cons, List.length_append]
    simp only [Segment.room, List.length_cons]
    omega

end

/-! ## What comes after a text -/

/-- Whether a delimiter that a text opens is not closed in it, so that what comes after is taken up
by the last of its segments. -/
inductive Hanging (w : List Char) : Prop
  | intro {opening closing : Char} {nested : Bool} (segs : List Segment) (v : List Char)
      (depth : Nat) (quote : Option Char) (delimiters : Delimiters opening closing nested)
      (quoted : ∀ q ∈ quote, nested = true ∧ isQuote q = true)
      (fits : room segs + v.length ≤ w.length)
      (parted : ∀ after, segments (w ++ after)
        = segs ++ .verbatim (v ++ (splitDelimited opening closing nested depth quote after).1)
          :: segments (splitDelimited opening closing nested depth quote after).2)

/-- Whether a text is cut in the same way whatever comes after. -/
def Parted (w : List Char) : Prop := ∀ after, segments (w ++ after) = segments w ++ segments after

section

variable {c opening closing : Char} {nested : Bool} {cs w b : List Char} {seg : Segment}

theorem Hanging.prepend (h : Hanging cs) (fits : seg.room ≤ w.length)
    (first : ∀ after, segments (w ++ (cs ++ after)) = seg :: segments (cs ++ after)) :
    Hanging (w ++ cs) := by
  obtain ⟨segs, v, depth, quote, delimiters, quoted, fits', parted⟩ := h
  refine ⟨seg :: segs, v, depth, quote, delimiters, quoted, ?_, fun after => ?_⟩
  · rw [room_cons, List.length_append]
    omega
  · rw [List.append_assoc, first, parted, ← List.cons_append]

theorem Parted.prepend (h : Parted cs)
    (first : ∀ after, segments (w ++ (cs ++ after)) = seg :: segments (cs ++ after)) :
    Parted (w ++ cs) := by
  intro after
  have alone := first []
  rw [List.append_nil] at alone
  rw [List.append_assoc, first, alone, h]
  rfl

theorem parted_or_hanging_prepend (h : Parted cs ∨ Hanging cs) (fits : seg.room ≤ w.length)
    (first : ∀ after, segments (w ++ (cs ++ after)) = seg :: segments (cs ++ after)) :
    Parted (w ++ cs) ∨ Hanging (w ++ cs) :=
  h.imp (·.prepend first) (·.prepend fits first)

theorem parted_nil : Parted [] := by
  intro after
  rw [segments_nil]
  rfl

/-- The text after an opening delimiter is cut up to the closing one, or hangs. -/
theorem parted_or_hanging_delimited (delimiters : Delimiters opening closing nested)
    (ends : cs.getLast? ≠ some '\\')
    (cut : ∀ after, segments (w ++ (cs ++ after))
      = .verbatim (w ++ (splitDelimited opening closing nested 0 none (cs ++ after)).1)
        :: segments (splitDelimited opening closing nested 0 none (cs ++ after)).2)
    (others : Parted (splitDelimited opening closing nested 0 none cs).2
      ∨ Hanging (splitDelimited opening closing nested 0 none cs).2) :
    Parted (w ++ cs) ∨ Hanging (w ++ cs) := by
  cases @scanned opening closing nested 0 none unquoted cs with
  | closed text rest whole split =>
    have alone := split []
    rw [List.append_nil, List.append_nil] at alone
    rw [alone] at others
    have same : w ++ cs = (w ++ (text ++ [closing])) ++ rest := by simp [whole]
    rw [same]
    refine @parted_or_hanging_prepend rest (w ++ (text ++ [closing]))
      (.verbatim (w ++ (text ++ [closing]))) others (Nat.le_refl _) fun after => ?_
    have here := cut after
    rw [split] at here
    simpa [whole] using here
  | still depth quote quoted split =>
    refine .inr ⟨[], w ++ cs, depth, quote, delimiters, quoted, ?_, fun after => ?_⟩
    · simp [room]
    · rw [List.append_assoc, cut, split, List.append_assoc]
      rfl
  | cut backslash split => exact absurd backslash ends

/-- Whether the scanner needs nothing after a text to make something of its last character. -/
def Complete (w : List Char) : Prop :=
  ∀ d ∈ w.getLast?, isSpace d = false ∧ d ≠ '@' ∧ d ≠ '\\'

theorem Complete.of_append (h : Complete (w ++ cs)) : Complete cs := by
  intro d last
  exact h d (by rw [List.getLast?_append, Option.mem_def.1 last, Option.some_or]; rfl)

theorem Complete.split (h : Complete cs) :
    Complete (splitDelimited opening closing nested 0 none cs).2 := by
  rw [← (@splitDelimited_parts opening closing nested 0 none unquoted cs).1] at h
  exact h.of_append

theorem Complete.noBackslash (h : Complete cs) : cs.getLast? ≠ some '\\' := fun last =>
  (h _ last).2.2 rfl

theorem parted_or_hanging (w : List Char) (complete : Complete w) : Parted w ∨ Hanging w := by
  fun_induction segments w with
  | case1 => exact .inl parted_nil
  | case2 rest split ih =>
    have inner : Complete rest := @Complete.of_append rest ['@', '('] complete
    exact @parted_or_hanging_delimited '(' ')' true rest ['@', '('] .scope inner.noBackslash
      (fun after => segments_scope rfl) (ih inner.split)
  | case3 c rest notScope space ih =>
    obtain ⟨b, blank, eq⟩ := exists_blank rest
    have blank' : Blank (c :: b) := List.forall_mem_cons.2 ⟨space, blank⟩
    have starts (after : List Char) : trimStart (trimStart rest ++ after) = trimStart rest ++ after := by
      cases here : trimStart rest with
      | nil =>
        rw [here, List.append_nil] at eq
        rw [eq] at complete
        obtain ⟨d, last⟩ : ∃ d, (c :: b).getLast? = some d :=
          Option.isSome_iff_exists.1 (by simp)
        have noSpace := (complete d last).1
        rw [blank' d (List.mem_of_getLast? last)] at noSpace
        cases noSpace
      | cons d cs =>
        have first := List.head?_dropWhile_not isSpace rest
        rw [trimStart] at here
        rw [here] at first
        exact trimStart_cons first _
    rw [eq] at complete ⊢
    rw [← List.cons_append] at complete ⊢
    refine @parted_or_hanging_prepend _ _ .space (ih complete.of_append) (by simp [Segment.room])
      fun after => ?_
    rw [segments_blank blank' (starts after)]
    rfl
  | case4 c rest notScope noSpace closing nested opens split ih =>
    have inner : Complete rest := @Complete.of_append rest [c] complete
    exact @parted_or_hanging_delimited c closing nested rest [c] (delimiters_of_closing? opens)
      inner.noBackslash (fun after => segments_verbatim (by simpa using noSpace) opens rfl)
      (ih inner.split)
  | case5 c rest notScope noSpace notOpening ih =>
    have inner : Complete rest := @Complete.of_append rest [c] complete
    refine @parted_or_hanging_prepend rest [c] (.mark c) (ih inner) (Nat.le_refl _) fun after => ?_
    refine segments_mark (by simpa using noSpace) notOpening ?_
    rintro rfl
    cases rest with
    | nil => exact absurd rfl (complete '@' rfl).2.1
    | cons d rest =>
      intro first
      obtain rfl : d = '(' := by simpa using first
      exact notScope rest rfl rfl

end

end SpanSearch.Layout
