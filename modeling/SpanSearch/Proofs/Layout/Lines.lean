import SpanSearch.Proofs.Layout.Contexts
import SpanSearch.Proofs.Layout.Outline

/-! # The lines of a pattern

The layout over several lines writes the outline of a pattern: a line for each element with its
quantifier and setters, and lines for parentheses and bars. An element starts a new line wherever the
line before it cannot be taken for the expression of a setter, that is, does not end in a colon.
-/

namespace SpanSearch.Layout

open Unicode Pattern

/-- Whether the layout over several lines leaves a setter in one piece, whatever stands around it, and
starts a new line for an element that follows it. -/
structure Held (w : List Char) : Prop where
  parted : Parted w
  inLines : ∀ depth line rest, lines depth line (segments w ++ rest) = lines depth (line ++ w) rest
  noColon : w.getLast? ≠ some ':'

theorem Kept.held {w : List Char} (h : Kept w) (noColon : w.getLast? ≠ some ':') : Held w :=
  ⟨h.parted, h.inLines, noColon⟩

/-- A line with its indentation. -/
def indent (line : Nat × List Char) : List Char := List.replicate line.1 '\t' ++ line.2

section

variable {options : Options} {p : Piece} {seg : Segment} {segs : List Segment} {depth : Nat}
  {w cs b text line after : List Char} {s : Setter} {ss : List Setter} {suffix : Suffix}

/-! ## Suffixes -/

/-- What belongs to the element before it is appended to its line. -/
theorem Is.lines (is : Is w seg) (isSuffix : seg.isSuffix = true) (depth : Nat) (line : List Char)
    (rest : List Segment) : lines depth line (seg :: rest) = lines depth (line ++ w) rest := by
  cases is with
  | mark c =>
    have other : ∀ d ∈ ['(', ')', '|'], c ≠ d := ne_of_class (p := fun c => (Segment.mark c).isSuffix)
      isSuffix (by decide)
    exact lines_mark (other '(' (by simp)) (other ')' (by simp)) (other '|' (by simp)) ..
  | verbatim text => exact lines_verbatim (by simp [startsElement_suffix isSuffix]) ..

theorem segments_bounds {bounds : Bounds} (word : Word options w (.bounds bounds)) :
    ∃ seg, Is w seg ∧ seg.isSuffix = true ∧ ∀ after, segments (w ++ after) = seg :: segments after := by
  obtain ⟨seg, is, parted⟩ := segments_word word (by simp)
  refine ⟨seg, is, ?_, parted⟩
  cases is with
  | mark c =>
    generalize single : [c] = w at word
    cases word with
    | optional | star | plus =>
      obtain rfl := (List.cons.inj single).1
      rfl
    | braces => simp at single
  | verbatim text =>
    cases word with
    | braces => rfl
    | optional =>
      have alone := parted []
      rw [List.append_nil, segments_mark (by decide) rfl (by decide)] at alone
      cases alone
    | star =>
      have alone := parted []
      rw [List.append_nil, segments_mark (by decide) rfl (by decide)] at alone
      cases alone
    | plus =>
      have alone := parted []
      rw [List.append_nil, segments_mark (by decide) rfl (by decide)] at alone
      cases alone

/-- White space before what belongs to the element before it is left out. -/
theorem lines_blank (blank : Blank b) (starts : trimStart cs = cs)
    (isSuffix : (segments cs).head?.any Segment.isSuffix = true) (depth : Nat) (line : List Char) :
    lines depth line (segments (b ++ cs)) = lines depth line (segments cs) := by
  rw [segments_blank blank starts]
  split
  · rfl
  · rw [List.singleton_append, lines_space_suffix isSuffix]

theorem SettersText.lines (h : SettersText options cs text ss)
    (standard : options.engine = Expression.standard) (held : ∀ s ∈ ss, Held (printSetter s))
    (depth : Nat) (line after : List Char) :
    lines depth line (segments (cs ++ after)) = lines depth (line ++ text) (segments after) := by
  induction h generalizing line with
  | nil => rw [List.nil_append, List.append_nil]
  | @cons b w cs text s ss blank word others ih =>
    obtain ⟨here, later⟩ := List.forall_mem_cons.1 held
    rw [← word_setter standard word] at here
    have isSuffix : (segments (w ++ (cs ++ after))).head?.any Segment.isSuffix = true := by
      obtain ⟨rest, isAt⟩ := printSetter_at s
      obtain ⟨seg, segs, cut, isSuffix, -⟩ := segments_at (rest ++ (cs ++ after))
      rw [word_setter standard word, isAt, List.cons_append, cut]
      exact isSuffix
    rw [List.append_assoc, List.append_assoc, lines_blank blank (trimStart_word word _) isSuffix,
      here.parted, here.inLines, ih later, List.append_assoc]

/-- The quantifier and the setters of an element are appended to its line. -/
theorem SuffixText.lines (h : SuffixText options cs text suffix)
    (standard : options.engine = Expression.standard)
    (held : ∀ s ∈ suffix.setters, Held (printSetter s)) (depth : Nat) (line after : List Char) :
    lines depth line (segments (cs ++ after)) = lines depth (line ++ text) (segments after) := by
  cases h with
  | once setters => exact setters.lines standard held depth line after
  | @bounded b w cs text bounds ss blank word setters =>
    obtain ⟨seg, is, isSuffix, parted⟩ := segments_bounds word
    have first : (segments (w ++ (cs ++ after))).head?.any Segment.isSuffix = true := by
      rw [parted]
      exact isSuffix
    rw [List.append_assoc, List.append_assoc, lines_blank blank (trimStart_word word _) first,
      parted, is.lines isSuffix, setters.lines standard held, List.append_assoc]

/-! ## Lines that are open -/

/-- Whether a line may be followed by a new one: it is empty, or has no white space at its ends and
does not end in a colon. -/
def Ready (line : List Char) : Prop := line = [] ∨ Tidy line ∧ line.getLast? ≠ some ':'

/-- Whether what follows an element ends its line. -/
structure Flushes (cs : List Char) : Prop where
  starts : trimStart cs = cs
  noSuffix : (segments cs).head?.any Segment.isSuffix = false
  breaks : ∀ depth line, Ready line →
    written depth line (segments cs) = writeLine (depth, line) ++ written depth [] (segments cs)

theorem writeLine_nil (depth : Nat) : writeLine (depth, []) = [] := rfl

theorem Flushes.blank (h : Flushes cs) (blank : Blank b) (ready : Ready line) :
    written depth line (segments (b ++ cs))
      = writeLine (depth, line) ++ written depth [] (segments cs) := by
  rw [segments_blank blank h.starts]
  split
  · exact h.breaks depth line ready
  · rw [List.singleton_append, written, lines_space h.noSuffix, written_cons]
    rfl

theorem flushes_nil : Flushes [] := by
  refine ⟨rfl, by rw [segments_nil]; rfl, fun depth line ready => ?_⟩
  rw [segments_nil, written, lines_nil, written_cons]
  rfl

/-- Parentheses and bars end the line before them. -/
theorem flushes_mark {c : Char} (isMark : c = '(' ∨ c = ')' ∨ c = '|') (cs : List Char) :
    Flushes (c :: cs) := by
  have cut : segments (c :: cs) = .mark c :: segments cs := by
    rcases isMark with rfl | rfl | rfl <;>
      exact segments_mark (by decide) rfl fun scope => absurd scope (by decide)
  refine ⟨?_, ?_, fun depth line ready => ?_⟩
  · rcases isMark with rfl | rfl | rfl <;> exact trimStart_cons (by decide) cs
  · rw [cut]
    rcases isMark with rfl | rfl | rfl <;> rfl
  · rw [cut]
    rcases isMark with rfl | rfl | rfl <;> simp [written, lines, writeLine_nil]

theorem startsElement_atom {a : Atom} (word : Word options w (.atom a)) : startsElement w = true := by
  cases word <;> rfl

/-- An element starts a line of its own. -/
theorem flushes_atom {a : Atom} (word : Word options w (.atom a)) (cs : List Char) :
    Flushes (w ++ cs) := by
  have starts := startsElement_atom word
  have cut := segments_atom word cs
  refine ⟨trimStart_word word cs, ?_, fun depth line ready => ?_⟩
  · rw [cut, List.head?_cons, Option.any_some, ← Bool.not_eq_true]
    intro isSuffix
    rw [startsElement_suffix isSuffix] at starts
    cases starts
  · rw [cut]
    rcases ready with rfl | ⟨tidy, noColon⟩
    · rfl
    · have filled : trim line ≠ [] := by
        rw [tidy.trim_eq]
        exact tidy.ne_nil
      rw [written, lines_element starts filled noColon, written_cons, written_start, written]

/-! ## The ends of elements -/

theorem noColon_of_word (h : Word options w p) (other : ∀ s, p ≠ .setter s) :
    ∀ d ∈ w.getLast?, isSpace d = false ∧ d ≠ ':' := by
  obtain ⟨text, c, eq, noSpace, -⟩ := last_of_word h
  rintro d last
  obtain rfl : c = d := by simpa [eq] using last
  refine ⟨noSpace, ?_⟩
  rintro rfl
  have last' (init : List Char) (e : Char) (same : w = init ++ [e]) : e = ':' := by
    rw [eq] at same
    exact (List.append_inj' same rfl).2 |> List.cons.inj |>.1 |>.symm
  cases h with
  | opening | closing | bar | optional | star | plus => exact absurd (last' [] _ rfl) (by decide)
  | @literal raw => exact absurd (last' ('\'' :: raw) _ rfl) (by decide)
  | @regex raw => exact absurd (last' ('"' :: raw) _ rfl) (by decide)
  | @tag text tag written =>
    obtain ⟨body, rfl, -⟩ := closes_tagText written
    exact absurd (last' ('<' :: body) _ rfl) (by decide)
  | @braces inner => exact absurd (last' ('{' :: inner) _ rfl) (by decide)
  | setter => exact other _ rfl

theorem SettersText.last (h : SettersText options cs text ss)
    (standard : options.engine = Expression.standard) (held : ∀ s ∈ ss, Held (printSetter s)) :
    ∀ d ∈ text.getLast?, isSpace d = false ∧ d ≠ ':' := by
  induction h with
  | nil => exact fun d last => nomatch last
  | @cons b w cs text s ss blank word others ih =>
    obtain ⟨here, later⟩ := List.forall_mem_cons.1 held
    rw [← word_setter standard word] at here
    obtain ⟨init, c, eq, noSpace, -⟩ := last_of_word word
    intro d last
    rw [List.getLast?_append, Option.mem_def, Option.or_eq_some_iff] at last
    rcases last with last | ⟨-, last⟩
    · exact ih later d last
    · refine ⟨?_, ?_⟩
      · obtain rfl : c = d := by simpa [eq] using last
        exact noSpace
      · rintro rfl
        exact here.noColon last

theorem SuffixText.last (h : SuffixText options cs text suffix)
    (standard : options.engine = Expression.standard)
    (held : ∀ s ∈ suffix.setters, Held (printSetter s)) :
    ∀ d ∈ text.getLast?, isSpace d = false ∧ d ≠ ':' := by
  cases h with
  | once setters => exact setters.last standard held
  | bounded blank word setters =>
    intro d last
    rw [List.getLast?_append, Option.mem_def, Option.or_eq_some_iff] at last
    rcases last with last | ⟨-, last⟩
    · exact setters.last standard held d last
    · exact noColon_of_word word (by simp) d last

/-- The line of an element may be followed by a new one. -/
theorem SuffixText.tidy (h : SuffixText options cs text suffix)
    (standard : options.engine = Expression.standard)
    (held : ∀ s ∈ suffix.setters, Held (printSetter s)) (word : Word options w p)
    (other : ∀ s, p ≠ .setter s) : Tidy (w ++ text) ∧ (w ++ text).getLast? ≠ some ':' := by
  have ends := h.last standard held
  refine ⟨(tidy_word word).append fun d last => (ends d last).1, fun last => ?_⟩
  rw [List.getLast?_append, Option.or_eq_some_iff] at last
  rcases last with last | ⟨-, last⟩
  · exact (ends ':' last).2 rfl
  · exact (noColon_of_word word other ':' last).2 rfl

/-! ## Elements -/

theorem outlineBranches_cons (depth bars : Nat) (item : Item) (items : List Item)
    (rows : List (List Item)) :
    outlineBranches depth bars ((item :: items) :: rows)
      = outlineItem depth item ++ outlineBranches depth bars (items :: rows) := by
  cases rows with
  | nil => rfl
  | cons row rows => simp only [outlineBranches, outlineRow, List.append_assoc]

/-- The lines of branches are their outline, with the bars between them one level higher. -/
theorem Arranged.written {rows : List (List Item)} {ess : List (List Element)}
    (h : Arranged options cs rows ess) (standard : options.engine = Expression.standard)
    (held : ∀ s ∈ ess.flatMap settersOf, Held (printSetter s)) (depth : Nat) (ready : Ready line)
    (flushes : Flushes after) :
    written depth line (segments (cs ++ after))
      = writeLine (depth, line) ++ ((outlineBranches depth (depth - 1) rows).flatMap writeLine
        ++ written depth [] (segments after)) := by
  induction h generalizing depth line after with
  | nil blank => exact flushes.blank blank ready
  | @atom b w cs text rest a s items rows es ess blank word suffix others ih =>
    rw [List.flatMap_cons, settersOf_cons, settersOf_atom, List.append_assoc] at held
    obtain ⟨heldSuffix, heldOthers⟩ := List.forall_mem_append.1 held
    have ready' := suffix.tidy standard heldSuffix word (by simp)
    have first : Layout.written depth [] (segments (w ++ (cs ++ (rest ++ after))))
        = Layout.written depth (w ++ text) (segments (rest ++ after)) := by
      rw [segments_atom word, written_start, Layout.written, suffix.lines standard heldSuffix,
        Layout.written]
    rw [List.append_assoc, List.append_assoc, List.append_assoc,
      (flushes_atom word _).blank blank ready, first, ih heldOthers depth (.inr ready') flushes,
      outlineBranches_cons, outlineItem, List.singleton_append, List.flatMap_cons, List.append_assoc]
  | @group b inside cs text rest s branches bs items rows es ess blank inner suffix others ihInner
      ihOthers =>
    rw [List.flatMap_cons, settersOf_cons, settersOf_ofBranches, List.append_assoc,
      List.append_assoc] at held
    obtain ⟨heldSuffix, more⟩ := List.forall_mem_append.1 held
    obtain ⟨heldInner, heldOthers⟩ := List.forall_mem_append.1 more
    have ready' := suffix.tidy standard heldSuffix (@Word.closing options) (by simp)
    have opens (cs : List Char) : Layout.written depth [] (segments ('(' :: cs))
        = writeLine (depth, ['(']) ++ Layout.written (depth + 1) [] (segments cs) := by
      rw [segments_mark (by decide) rfl fun scope => absurd scope (by decide), Layout.written,
        lines_opening, written_cons, writeLine_nil, List.nil_append, written_cons]
      rfl
    have closes : Layout.written (depth + 1) [] (segments (')' :: (cs ++ (rest ++ after))))
        = Layout.written depth ([')'] ++ text) (segments (rest ++ after)) := by
      rw [segments_mark (by decide) rfl fun scope => absurd scope (by decide), Layout.written,
        lines_closing, written_cons, writeLine_nil, List.nil_append, Nat.add_sub_cancel,
        suffix.lines standard heldSuffix]
      rfl
    have whole : b ++ '(' :: (inside ++ ')' :: (cs ++ rest)) ++ after
        = b ++ '(' :: (inside ++ ')' :: (cs ++ (rest ++ after))) := by
      simp
    rw [whole, (flushes_mark (.inl rfl) _).blank blank ready, opens,
      ihInner heldInner (depth + 1) (.inl rfl) (flushes_mark (.inr (.inl rfl)) _), closes,
      ihOthers heldOthers depth (.inr ready') flushes, outlineBranches_cons, outlineItem,
      Nat.add_sub_cancel, writeLine_nil]
    simp
  | @bar b rest rows ess blank others ih =>
    obtain ⟨⟨items, more, rfl⟩, -⟩ := others.exists_rows
    have opens : Layout.written depth [] (segments ('|' :: (rest ++ after)))
        = writeLine (depth - 1, ['|']) ++ Layout.written depth [] (segments (rest ++ after)) := by
      rw [segments_mark (by decide) rfl fun scope => absurd scope (by decide), Layout.written,
        lines_bar, written_cons, writeLine_nil, List.nil_append, written_cons]
      rfl
    rw [List.append_assoc, List.cons_append, (flushes_mark (.inr (.inr rfl)) _).blank blank ready,
      opens, ih held depth (.inl rfl) flushes, outlineBranches, outlineRow, writeLine_nil]
    simp

end

end SpanSearch.Layout
