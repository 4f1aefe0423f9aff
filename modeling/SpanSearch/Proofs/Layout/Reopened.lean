import SpanSearch.Proofs.Layout.Steady

/-! # Texts that are open again on one line

White space after a backslash in braces is left out on one line, so that the backslash takes the next
character along. If that is a delimiter, the text is cut in another way when it is put on one line
again. Whatever a text leaves open, there are setters after which nothing is open as it is written, but
something is when it has been put on one line.
-/

namespace SpanSearch.Layout

open Unicode Pattern

/-- What is written between braces, where backslashes stand before white space. -/
def braceText : List Char := ['{', '\\', ' ', ']', '@', 'm', '[', '\\', ' ', '}']

/-- What is left of it on one line, with the bracket after it. -/
def reopener : List Char := ['{', '\\', ']', '@', 'm', '[', '\\', '}', ']']

/-- Whether a text ends right after an opening delimiter, as far as the scanner is concerned. -/
def Opens (w : List Char) (opening closing : Char) (nested : Bool) : Prop :=
  ∃ segs v, ∀ after, segments (w ++ after)
    = segs ++ .verbatim (v ++ (splitDelimited opening closing nested 0 none after).1)
      :: segments (splitDelimited opening closing nested 0 none after).2

/-- Whether a text closes what it opens, and ends with braces in which white space follows backslashes
and with a bracket. -/
def Braced (w : List Char) : Prop :=
  ∃ segs t c, isSpace c = false ∧ c ≠ '@' ∧ c ≠ '\\' ∧ ∀ after, segments (w ++ after)
    = segs ++ .verbatim (t ++ [c]) :: .verbatim braceText :: .mark ']' :: segments after

section

variable {options : Options} {opening closing : Char} {nested : Bool} {w : List Char}

/-! ## Closing what is open -/

theorem Hanging.opens (h : Hanging w) (standard : options.engine = Expression.standard) :
    ∃ ss : List Setter, (∀ s ∈ ss, Sure options s) ∧ ∃ opening closing nested,
      Delimiters opening closing nested
        ∧ Opens (w ++ ss.flatMap printSetter) opening closing nested := by
  obtain @⟨opening, closing, nested, segs, v, depth, quote, delimiters, quoted, -, parted⟩ := h
  obtain ⟨ss, sure, split⟩ := exists_level standard delimiters quoted depth
  refine ⟨ss, fun s mem => (sure s mem).1, opening, closing, nested, delimiters, segs,
    v ++ ss.flatMap printSetter, fun after => ?_⟩
  rw [List.append_assoc, parted, split, List.append_assoc]

/-- A bracket is closed by an expression, the quote at the end of which is then open. -/
theorem Opens.quote (h : Opens w '[' ']' false) :
    Opens (w ++ printSetter bracketText) '\'' '\'' false := by
  obtain ⟨segs, v, parted⟩ := h
  refine ⟨segs ++ [.verbatim (v ++ ['@', '(', '\'', ']']), .space], ['\'', ')', ':', 'm'],
    fun after => ?_⟩
  have inside : splitDelimited '[' ']' false 0 none (printSetter bracketText ++ after)
      = (['@', '(', '\'', ']'], ' ' :: ' ' :: '\'' :: ')' :: ':' :: 'm' :: after) :=
    rfl
  have rest : splitDelimited '\'' '\'' false 0 none (')' :: ':' :: 'm' :: after)
      = ([')', ':', 'm'] ++ (splitDelimited '\'' '\'' false 0 none after).1,
          (splitDelimited '\'' '\'' false 0 none after).2) :=
    @split_plain '\'' '\'' false 0 [')', ':', 'm'] (List.all_iff_forall_prop.1 (by decide)) after
  have blanks : trimStart (' ' :: '\'' :: ')' :: ':' :: 'm' :: after)
      = '\'' :: ')' :: ':' :: 'm' :: after := rfl
  rw [List.append_assoc, parted, inside, segments_space (by decide), blanks,
    segments_verbatim (by decide) rfl rest]
  simp

/-- Other delimiters are closed by separators, and white space follows backslashes in braces. -/
theorem Opens.braced (h : Opens w opening closing nested)
    (delimiters : Delimiters opening closing nested) (other : closing ≠ ']') :
    Braced (w ++ (printSetter (separated [closing, '{', '\\', ' '])
      ++ printSetter (separated ['\\', ' ', '}']))) := by
  obtain ⟨segs, v, parted⟩ := h
  obtain ⟨ordinary, unquoted, -⟩ := delimiters.ordinary
  have plain : ∀ c ∈ ['@', 'm', '['], Plain opening closing nested c := by
    cases delimiters with
    | brackets => exact absurd rfl other
    | _ => exact List.all_iff_forall_prop.1 (by decide)
  refine ⟨segs, v ++ ['@', 'm', '['], closing, delimiters.noSpace, ?_, ordinary, fun after => ?_⟩
  · cases delimiters <;> decide
  · have braces : Closes '{' '}' false 0 none ['\\', ' ', ']', '@', 'm', '[', '\\', ' '] := by
      simp [Closes]
    have inBraces := braces.split (by decide) rfl (']' :: after)
    have text : printSetter (separated [closing, '{', '\\', ' '])
          ++ printSetter (separated ['\\', ' ', '}']) ++ after
        = ['@', 'm', '['] ++ closing :: '{'
          :: (['\\', ' ', ']', '@', 'm', '[', '\\', ' '] ++ '}' :: ']' :: after) := by
      rw [printSetter_separated (by simpa using other), printSetter_separated (by simp)]
      simp
    rw [List.append_assoc, text, parted, split_plain plain, split_char ordinary,
      if_neg (by simp [unquoted]), if_pos (beq_self_eq_true closing)]
    dsimp only
    rw [segments_verbatim (by decide) rfl inBraces,
      segments_mark (by decide) rfl fun same => absurd same (by decide)]
    simp [braceText]

theorem sure_closing (delimiters : Delimiters opening closing nested) (other : closing ≠ ']') :
    Sure options (separated [closing, '{', '\\', ' ']) := by
  have plain : ∀ c ∈ [closing, '{', '\\', ' '], c ≠ ']' := by simpa using other
  refine sure_of_closes ⟨?_, ?_, ?_, ?_⟩ ?_
  · simp
  · simp [← String.toList_inj]
  · simp [← String.toList_inj]
  · simp [← String.toList_inj]
  · rw [printSeparator_plain plain]
    cases delimiters with
    | brackets => exact absurd rfl other
    | _ => simp [Closes]

theorem sure_braces : Sure options (separated ['\\', ' ', '}']) := by
  refine sure_of_closes ⟨by decide, by decide, by decide, by decide⟩ ?_
  rw [printSeparator_plain (by simp)]
  simp [Closes]

/-- Whatever a text leaves open, there are setters that close it and end with such braces. -/
theorem Hanging.braced (h : Hanging w) (standard : options.engine = Expression.standard) :
    ∃ ss : List Setter, (∀ s ∈ ss, Sure options s) ∧ Braced (w ++ ss.flatMap printSetter) := by
  have close {ss : List Setter} {opening closing : Char} {nested : Bool}
      (sure : ∀ s ∈ ss, Sure options s)
      (opens : Opens (w ++ ss.flatMap printSetter) opening closing nested)
      (delimiters : Delimiters opening closing nested) (other : closing ≠ ']') :
      ∃ ss : List Setter, (∀ s ∈ ss, Sure options s) ∧ Braced (w ++ ss.flatMap printSetter) := by
    refine ⟨ss ++ [separated [closing, '{', '\\', ' '], separated ['\\', ' ', '}']],
      List.forall_mem_append.2 ⟨sure, List.forall_mem_cons.2 ⟨sure_closing delimiters other,
        List.forall_mem_singleton.2 sure_braces⟩⟩, ?_⟩
    have braced := opens.braced delimiters other
    rw [List.append_assoc] at braced
    simpa using braced
  obtain ⟨ss, sure, opening, closing, nested, delimiters, opens⟩ := h.opens standard
  by_cases bracket : closing = ']'
  · obtain ⟨rfl, rfl⟩ : opening = '[' ∧ nested = false := by
      cases delimiters with
      | brackets => exact ⟨rfl, rfl⟩
      | _ => exact absurd bracket (by decide)
    subst bracket
    have sure' : ∀ s ∈ ss ++ [bracketText], Sure options s :=
      List.forall_mem_append.2 ⟨sure, List.forall_mem_singleton.2 (sure_bracketText standard)⟩
    refine close sure' ?_ .apostrophe (by decide)
    have quote := opens.quote
    rwa [List.append_assoc, ← List.flatMap_singleton printSetter bracketText, ← List.flatMap_append]
      at quote
  · exact close sure opens delimiters bracket

/-! ## Open again -/

/-- The scanner finds no end in what is left on one line, whatever it looks for. -/
theorem split_reopener (delimiters : Delimiters opening closing nested) {quote : Option Char}
    (quoted : ∀ q ∈ quote, nested = true ∧ isQuote q = true) (depth : Nat) :
    ∃ depth', ∀ after, splitDelimited opening closing nested depth quote (reopener ++ after)
      = (reopener ++ (splitDelimited opening closing nested depth' quote after).1,
          (splitDelimited opening closing nested depth' quote after).2) := by
  cases quote with
  | some q =>
    have quotes : q = '\'' ∨ q = '"' := by simpa [isQuote] using (quoted q rfl).2
    rcases quotes with rfl | rfl <;> exact ⟨depth, fun after => rfl⟩
  | none =>
    cases delimiters with
    | braces => exact ⟨depth + 1, fun after => rfl⟩
    | _ => exact ⟨depth, fun after => rfl⟩

/-- After any text, it leaves a delimiter open. -/
theorem hanging_reopener (complete : Complete w) : Hanging (w ++ reopener) := by
  rcases parted_or_hanging w complete with parted | @⟨opening, closing, nested, segs, v, depth, quote,
    delimiters, quoted, fits, cut⟩
  · have fits := (parts_segments w).room_le
    refine ⟨segments w, reopener, 0, none, .braces, unquoted, ?_, fun after => ?_⟩
    · rw [List.length_append]
      omega
    · have still (after : List Char) : splitDelimited '{' '}' false 0 none (reopener.tail ++ after)
          = (reopener.tail ++ (splitDelimited '{' '}' false 0 none after).1,
              (splitDelimited '{' '}' false 0 none after).2) :=
        rfl
      have starts : reopener ++ after = '{' :: (reopener.tail ++ after) := rfl
      rw [List.append_assoc, parted, starts, segments_verbatim (by decide) rfl (still after)]
      rfl
  · obtain ⟨depth', split⟩ := split_reopener delimiters quoted depth
    refine ⟨segs, v ++ reopener, depth', quote, delimiters, quoted, ?_, fun after => ?_⟩
    · rw [List.length_append, List.length_append]
      omega
    · rw [List.append_assoc, cut, split, List.append_assoc]

theorem Braced.reopened (h : Braced w) : Parted w ∧ Hanging (onLine w) := by
  obtain ⟨segs, t, c, noSpace, noAt, noBackslash, cut⟩ := h
  have whole : segments w = segs ++ [.verbatim (t ++ [c])] ++ [.verbatim braceText, .mark ']'] := by
    have alone := cut []
    rw [List.append_nil, segments_nil] at alone
    rw [alone]
    simp
  have ends : EndsIn c (segs ++ [.verbatim (t ++ [c])]) :=
    (endsIn_single Segment.noConfusion (getLast?_oneLine noSpace _ (by simp))).prepend segs
  have complete : Complete (oneLine none false (segs ++ [.verbatim (t ++ [c])])) := by
    intro d last
    rw [ends.last] at last
    cases last
    exact ⟨noSpace, noAt, noBackslash⟩
  have rest : oneLine (some c) false [.verbatim braceText, .mark ']'] = reopener := rfl
  refine ⟨fun after => ?_, ?_⟩
  · rw [cut, whole]
    simp
  · rw [onLine, whole, ends.append, rest]
    exact hanging_reopener complete

end

end SpanSearch.Layout
