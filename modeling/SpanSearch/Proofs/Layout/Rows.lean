import SpanSearch.Proofs.Layout.Scanning
import SpanSearch.Proofs.Layout.Tags

/-! # Rows of words in their layouts

Both layouts change the white space between words, in tags and in quantifiers, and nothing else, as
long as they keep every setter. So they leave a row of words that writes the same pieces.
-/

namespace SpanSearch.Layout

open Unicode Pattern

/-- Whether both layouts leave a text in one piece and as it is, whatever stands around it. -/
structure Kept (w : List Char) : Prop where
  parted : ∀ after, segments (w ++ after) = segments w ++ segments after
  inLine : ∀ last pending rest,
    oneLine last pending (segments w ++ rest) = w ++ oneLine w.getLast? false rest
  inLines : ∀ depth line rest, lines depth line (segments w ++ rest) = lines depth (line ++ w) rest

section

variable {options : Options} {p : Piece} {ps qs : List Piece} {seg : Segment}
  {segs : List Segment} {c : Char} {w b cs line : List Char}

/-! ## White space -/

theorem segments_blank (blank : Blank b) (starts : trimStart cs = cs) :
    segments (b ++ cs) = (if b.isEmpty then [] else [.space]) ++ segments cs := by
  cases b with
  | nil => rfl
  | cons c b =>
    obtain ⟨space, later⟩ := List.forall_mem_cons.1 blank
    rw [List.cons_append, segments_space space, Blank.trimStart_append later, starts]
    rfl

theorem segments_of_blank (blank : Blank b) : segments b = if b.isEmpty then [] else [.space] := by
  rw [← List.append_nil b, segments_blank blank rfl, segments_nil, List.append_nil, List.append_nil]

theorem trimStart_word (h : Word options w p) (cs : List Char) : trimStart (w ++ cs) = w ++ cs := by
  obtain ⟨c, rest, rfl, noSpace, -⟩ := h.starts
  exact trimStart_cons noSpace _

/-! ## On one line -/

theorem oneLine_cons (notSpace : seg ≠ .space) (last : Option Char) (pending : Bool)
    (rest : List Segment) :
    oneLine last pending (seg :: rest)
      = (if pending && last.any (separates · seg) then [' '] else [])
        ++ (seg.oneLine ++ oneLine seg.oneLine.getLast? false rest) := by
  rw [oneLine]
  · split <;> rfl
  · exact notSpace

theorem oneLine_segment (notSpace : seg ≠ .space) (last : Option Char) (pending : Bool)
    (rest : List Segment) :
    ∃ b, Blank b ∧ oneLine last pending (seg :: rest)
      = b ++ (seg.oneLine ++ oneLine seg.oneLine.getLast? false rest) := by
  refine ⟨_, ?_, oneLine_cons notSpace last pending rest⟩
  split
  · simp [Blank, isSpace]
  · exact blank_nil

theorem oneLine_verbatim (notTag : w.head? ≠ some '<') (notBraces : w.head? ≠ some '{') :
    (Segment.verbatim w).oneLine = w := by
  rw [Segment.oneLine, if_neg (by simpa using notTag), if_neg (by simpa using notBraces)]

/-- A word on one line is a word for the same piece. -/
theorem word_oneLine (h : Word options w p) (is : Is w seg) : Word options seg.oneLine p := by
  cases is with
  | mark c => exact h
  | verbatim text =>
    cases h with
    | @tag text tag written =>
      obtain ⟨text', same, written'⟩ := tagText_collapse written
      change Word options (collapse none none false ('<' :: text)) _
      rw [same]
      exact .tag written'
    | @braces inner b within writes =>
      have split : ('{' :: (inner ++ ['}'])).filter (!isSpace ·)
          = '{' :: (inner.filter (!isSpace ·) ++ ['}']) := by
        rw [List.filter_cons_of_pos (by decide), List.filter_append]
        rfl
      change Word options (('{' :: (inner ++ ['}'])).filter (!isSpace ·)) _
      rw [split]
      exact .braces (fun mem => within (List.mem_of_mem_filter mem)) (bounds_filter writes)
    | opening => exact .opening
    | closing => exact .closing
    | bar => exact .bar
    | literal inside tokens =>
      rw [oneLine_verbatim (by simp) (by simp)]
      exact .literal inside tokens
    | regex inside nonempty valid =>
      rw [oneLine_verbatim (by simp) (by simp)]
      exact .regex inside nonempty valid
    | optional => exact .optional
    | star => exact .star
    | plus => exact .plus
    | setter inScope isName writable =>
      rw [oneLine_verbatim (by simp) (by simp)]
      exact .setter inScope isName writable

/-- A row of words on one line is a row of words for the same pieces. -/
theorem written_oneLine (h : Written options cs ps)
    (kept : ∀ w s, Word options w (.setter s) → .setter s ∈ ps → Kept w) (last : Option Char)
    (pending : Bool) : Written options (oneLine last pending (segments cs)) ps := by
  induction h generalizing last pending with
  | @nil b blank =>
    rw [segments_of_blank blank]
    split
    · rw [oneLine]
      exact .nil blank_nil
    · rw [oneLine, oneLine]
      exact .nil blank_nil
  | @cons b w cs p ps blank word others ih =>
    have later := ih fun w s word mem => kept w s word (.tail _ mem)
    have afterWord (last : Option Char) (pending : Bool) :
        Written options (oneLine last pending (segments (w ++ cs))) (p :: ps) := by
      by_cases setter : ∃ s, p = .setter s
      · obtain ⟨s, rfl⟩ := setter
        have keeps := kept w s word (.head _)
        rw [keeps.parted, keeps.inLine]
        exact .cons blank_nil word (later _ _)
      · obtain ⟨seg, is, parted⟩ := segments_word word (not_exists.1 setter)
        have notSpace : seg ≠ .space := by
          rintro rfl
          cases is
        obtain ⟨b, blank, eq⟩ := oneLine_segment notSpace last pending (segments cs)
        rw [parted, eq]
        exact .cons blank (word_oneLine word is) (later _ _)
    rw [segments_blank blank (trimStart_word word cs)]
    split
    · exact afterWord last pending
    · rw [List.singleton_append, oneLine]
      exact afterWord last true

/-! ## Over several lines -/

/-- The scanner needs nothing after a word to make something of its last character. -/
theorem last_of_word (h : Word options w p) :
    ∃ text c, w = text ++ [c] ∧ isSpace c = false ∧ c ≠ '@' ∧ c ≠ '\\' := by
  cases h with
  | opening => exact ⟨[], _, rfl, by decide⟩
  | closing => exact ⟨[], _, rfl, by decide⟩
  | bar => exact ⟨[], _, rfl, by decide⟩
  | @literal raw => exact ⟨'\'' :: raw, _, rfl, by decide⟩
  | @regex raw => exact ⟨'"' :: raw, _, rfl, by decide⟩
  | @tag text tag written =>
    obtain ⟨body, rfl, -⟩ := closes_tagText written
    exact ⟨'<' :: body, _, rfl, by decide⟩
  | optional => exact ⟨[], _, rfl, by decide⟩
  | star => exact ⟨[], _, rfl, by decide⟩
  | plus => exact ⟨[], _, rfl, by decide⟩
  | @braces inner => exact ⟨'{' :: inner, _, rfl, by decide⟩
  | @setter scope name e policy inScope isName writable =>
    by_cases unset : policy = .join none
    · subst unset
      obtain ⟨init, c, rfl⟩ := List.eq_nil_or_concat name |>.resolve_left isName.nonempty
      have isNameChar := isName.chars c (by simp)
      have other : ∀ d ∈ ['@', '\\'], c ≠ d := ne_of_class isNameChar (by decide)
      exact ⟨'@' :: (scope ++ init), c, by simp [printPolicy], isSpace_of_isNameChar isNameChar,
        other '@' (by simp), other '\\' (by simp)⟩
    · obtain ⟨text, -, rfl⟩ := writable.exists_text unset
      rw [printPolicy_policyOf]
      exact ⟨'@' :: (scope ++ (name ++ '[' :: bracketed text)), ']', by simp, by decide⟩

theorem written_trim (h : Written options cs ps) : Written options (trim cs) ps := by
  have atEnd {cs : List Char} {ps : List Piece} (h : Written options cs ps) :
      Written options (trimEnd cs) ps := by
    induction h with
    | @nil b blank =>
      rw [trimEnd_blank blank]
      exact .nil blank_nil
    | @cons b w cs p ps blank word others ih =>
      obtain ⟨text, c, rfl, noSpace, -⟩ := last_of_word word
      have row := Written.cons blank word ih
      have same : trimEnd (b ++ (text ++ [c] ++ cs)) = b ++ (text ++ [c] ++ trimEnd cs) := by
        rw [← List.append_assoc, ← List.append_assoc, List.append_assoc, List.singleton_append,
          trimEnd_append noSpace]
        simp
      rwa [same]
  exact atEnd (spells_iff_written.1 (spells_trimStart.2 (spells_iff_written.2 h)))

theorem written_writeLine (depth : Nat) (h : Written options line qs) :
    Written options (writeLine (depth, line)) qs := by
  have trimmed := written_trim h
  unfold writeLine
  dsimp only
  split
  · next empty =>
    rw [List.isEmpty_iff] at empty
    rwa [empty] at trimmed
  · have tabs : Blank (List.replicate depth '\t') := by
      intro c mem
      rw [List.eq_of_mem_replicate mem]
      rfl
    have newline : Blank ['\n'] := by simp [Blank, isSpace]
    have row := (Written.append (.nil tabs) trimmed).append (.nil newline)
    rwa [List.nil_append, List.append_nil] at row

/-! ## What a segment does to the lines -/

theorem lines_nil (depth : Nat) (line : List Char) : lines depth line [] = [(depth, line)] := rfl

/-- White space ends a line, unless what follows belongs to the element before it. -/
theorem lines_space (noSuffix : segs.head?.any Segment.isSuffix = false) (depth : Nat)
    (line : List Char) :
    lines depth line (.space :: segs) = (depth, line) :: lines depth [] segs :=
  if_neg (by simp [noSuffix])

theorem lines_space_suffix (suffix : segs.head?.any Segment.isSuffix = true) (depth : Nat)
    (line : List Char) : lines depth line (.space :: segs) = lines depth line segs :=
  if_pos suffix

theorem lines_opening (depth : Nat) (line : List Char) (segs : List Segment) :
    lines depth line (.mark '(' :: segs)
      = (depth, line) :: (depth, ['(']) :: lines (depth + 1) [] segs := rfl

theorem lines_closing (depth : Nat) (line : List Char) (segs : List Segment) :
    lines depth line (.mark ')' :: segs) = (depth, line) :: lines (depth - 1) [')'] segs := rfl

theorem lines_bar (depth : Nat) (line : List Char) (segs : List Segment) :
    lines depth line (.mark '|' :: segs)
      = (depth, line) :: (depth - 1, ['|']) :: lines depth [] segs := rfl

theorem lines_mark (opening : c ≠ '(') (closing : c ≠ ')') (bar : c ≠ '|') (depth : Nat)
    (line : List Char) (segs : List Segment) :
    lines depth line (.mark c :: segs) = lines depth (line ++ [c]) segs := by
  rw [lines, if_neg (by simpa using opening), if_neg (by simpa using closing),
    if_neg (by simpa using bar)]

/-- An element starts a new line, unless a colon is before it. -/
theorem lines_element (starts : startsElement w = true) (filled : trim line ≠ [])
    (noColon : line.getLast? ≠ some ':') (depth : Nat) (segs : List Segment) :
    lines depth line (.verbatim w :: segs) = (depth, line) :: lines depth w segs :=
  if_pos (by simp [starts, filled, noColon])

theorem lines_verbatim (starts : startsElement w = true → line.getLast? = some ':') (depth : Nat)
    (segs : List Segment) :
    lines depth line (.verbatim w :: segs) = lines depth (line ++ w) segs := by
  refine if_neg fun breaks => ?_
  simp only [Bool.and_eq_true, bne_iff_ne] at breaks
  exact breaks.2 (starts breaks.1.1)

/-- The lines of segments as they are written. -/
def written (depth : Nat) (line : List Char) (segs : List Segment) : List Char :=
  (lines depth line segs).flatMap writeLine

theorem written_cons (depth : Nat) (line : List Char) (segs : List (Nat × List Char)) :
    ((depth, line) :: segs).flatMap writeLine = writeLine (depth, line) ++ segs.flatMap writeLine :=
  rfl

/-- Text between delimiters that stands at the start of a line stays there. -/
theorem written_start (depth : Nat) (w : List Char) (segs : List Segment) :
    written depth [] (.verbatim w :: segs) = written depth w segs := by
  have blank : trim [] = [] := rfl
  rw [written, lines, blank, if_neg (by simp)]
  rfl

/-- What a segment does to the lines: some are finished, and one is open after it. -/
theorem written_segment (h : Word options w p) (is : Is w seg) (depth : Nat)
    (row : Written options line qs) :
    ∃ text depth' line' before after, before ++ after = qs ++ [p]
      ∧ Written options text before ∧ Written options line' after
      ∧ ∀ rest, written depth line (seg :: rest) = text ++ written depth' line' rest := by
  have finished := written_writeLine depth row
  have appended := row.append h.written
  cases is with
  | mark c =>
    by_cases opening : c = '('
    · subst opening
      refine ⟨writeLine (depth, line) ++ writeLine (depth, ['(']), depth + 1, [], qs ++ [p], [],
        List.append_nil _, finished.append (written_writeLine depth h.written), .nil blank_nil,
        fun rest => ?_⟩
      rw [written, lines_opening, written_cons, written_cons, List.append_assoc]
      rfl
    · by_cases closing : c = ')'
      · subst closing
        refine ⟨writeLine (depth, line), depth - 1, [')'], qs, [p], rfl, finished, h.written,
          fun rest => ?_⟩
        rw [written, lines_closing, written_cons]
        rfl
      · by_cases bar : c = '|'
        · subst bar
          refine ⟨writeLine (depth, line) ++ writeLine (depth - 1, ['|']), depth, [], qs ++ [p], [],
            List.append_nil _, finished.append (written_writeLine (depth - 1) h.written),
            .nil blank_nil, fun rest => ?_⟩
          rw [written, lines_bar, written_cons, written_cons, List.append_assoc]
          rfl
        · refine ⟨[], depth, line ++ [c], [], qs ++ [p], rfl, .nil blank_nil, appended,
            fun rest => ?_⟩
          rw [written, lines_mark opening closing bar]
          rfl
  | verbatim text =>
    by_cases breaks : (startsElement w && !(trim line).isEmpty && line.getLast? != some ':') = true
    · refine ⟨writeLine (depth, line), depth, w, qs, [p], rfl, finished, h.written,
        fun rest => ?_⟩
      rw [written, lines, if_pos breaks, written_cons]
      rfl
    · refine ⟨[], depth, line ++ w, [], qs ++ [p], rfl, .nil blank_nil, appended, fun rest => ?_⟩
      rw [written, lines, if_neg breaks]
      rfl

/-- A row of words over several lines is a row of words for the same pieces, after those on the line
that is open. -/
theorem written_lines (h : Written options cs ps)
    (kept : ∀ w s, Word options w (.setter s) → .setter s ∈ ps → Kept w) (depth : Nat)
    (row : Written options line qs) :
    Written options (written depth line (segments cs)) (qs ++ ps) := by
  -- white space starts a new line, or is left out
  have space {depth : Nat} {line : List Char} {qs ps : List Piece} {segs : List Segment}
      (row : Written options line qs)
      (next : ∀ {line qs}, Written options line qs →
        Written options (written depth line segs) (qs ++ ps)) :
      Written options (written depth line (.space :: segs)) (qs ++ ps) := by
    rw [written, lines]
    split
    · exact next row
    · exact (written_writeLine depth row).append (next (.nil blank_nil))
  induction h generalizing depth line qs with
  | @nil b blank =>
    have last {line : List Char} {qs : List Piece} (row : Written options line qs) :
        Written options (written depth line []) (qs ++ []) := by
      rw [List.append_nil, written, lines_nil, List.flatMap_singleton]
      exact written_writeLine depth row
    rw [segments_of_blank blank]
    split
    · exact last row
    · exact space row last
  | @cons b w cs p ps blank word others ih =>
    have later {depth : Nat} {line : List Char} {qs : List Piece} (row : Written options line qs) :
        Written options (written depth line (segments cs)) (qs ++ ps) :=
      ih (fun w s word mem => kept w s word (.tail _ mem)) depth row
    have afterWord {line : List Char} {qs : List Piece} (row : Written options line qs) :
        Written options (written depth line (segments (w ++ cs))) (qs ++ p :: ps) := by
      by_cases setter : ∃ s, p = .setter s
      · obtain ⟨s, rfl⟩ := setter
        have keeps := kept w s word (.head _)
        rw [keeps.parted, written, keeps.inLines, List.append_cons]
        exact later (row.append word.written)
      · obtain ⟨seg, is, parted⟩ := segments_word word (not_exists.1 setter)
        obtain ⟨text, depth', line', before, after, eq, finished, row', same⟩ :=
          written_segment word is depth row
        rw [parted, same, List.append_cons, ← eq, List.append_assoc]
        exact finished.append (later row')
    rw [segments_blank blank (trimStart_word word cs)]
    split
    · exact afterWord row
    · exact space row afterWord

end

/-! ## The layouts of a text -/

def layouts (source : String) : List String :=
  [explode source, normalize source, normalize (explode source)]

theorem toList_explode (source : String) :
    (explode source).toList = written 0 [] (segments source.toList) := by
  rw [explode, String.toList_ofList, written]

theorem toList_normalize (source : String) :
    (normalize source).toList = oneLine none false (segments source.toList) := by
  rw [normalize, String.toList_ofList]

end SpanSearch.Layout
