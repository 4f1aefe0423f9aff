import SpanSearch.Proofs.Layout.Lines
import SpanSearch.Proofs.Layout.RoundTrip
import SpanSearch.Proofs.Layout.Solid

/-! # Outlines that can be read off a layout

The lines of the layout over several lines are the outline of the pattern, if its setters stay in one
piece and do not end in a colon. If they do not, there is a pattern with setters that do so otherwise
of which this is not true.
-/

namespace SpanSearch.Layout

open Unicode Pattern

/-- Whether the lines of the layout over several lines are those of the outline, for all texts that
compile, provided that they have only setters that are allowed and no words with line breaks. -/
def Outlined (options : Options) (allowed : Setter → Prop) : Prop :=
  ∀ source p items, compile options source = .ok p → (∀ s ∈ settersOf p.elements, allowed s) →
    Arranged options source.toList [items] [p.elements] →
    (∀ line ∈ outlineRow 0 items, '\n' ∉ line.2) →
    (explode source).toList.splitOn '\n' = (outlineRow 0 items).map indent ++ [[]]

section

variable {options : Options} {source : String} {p : Pattern} {s : Setter} {ss : List Setter}
  {cs w text line : List Char} {segs : List Segment} {es : List Element} {items : List Item}

/-! ## The outline is laid out -/

/-- No line of an outline has white space at its ends. -/
theorem Arranged.tidy {rows : List (List Item)} {ess : List (List Element)}
    (h : Arranged options cs rows ess) (standard : options.engine = Expression.standard)
    (held : ∀ s ∈ ess.flatMap settersOf, Held (printSetter s)) (depth bars : Nat) :
    ∀ line ∈ outlineBranches depth bars rows, Tidy line.2 := by
  have tidyBar : Tidy ['|'] := tidy_word (@Word.bar options)
  have tidyOpening : Tidy ['('] := tidy_word (@Word.opening options)
  induction h generalizing depth bars with
  | nil => exact fun line mem => nomatch mem
  | @atom b w cs text rest a s items rows es ess blank word suffix others ih =>
    rw [List.flatMap_cons, settersOf_cons, settersOf_atom, List.append_assoc] at held
    obtain ⟨here, later⟩ := List.forall_mem_append.1 held
    rw [outlineBranches_cons, outlineItem, List.singleton_append]
    exact List.forall_mem_cons.2 ⟨(suffix.tidy standard here word (by simp)).1, ih later depth bars⟩
  | @group b inside cs text rest s branches bs items rows es ess blank inner suffix others ihInner
      ihOthers =>
    rw [List.flatMap_cons, settersOf_cons, settersOf_ofBranches, List.append_assoc,
      List.append_assoc] at held
    obtain ⟨here, more⟩ := List.forall_mem_append.1 held
    obtain ⟨inside, later⟩ := List.forall_mem_append.1 more
    have closes := (suffix.tidy standard here (@Word.closing options) (by simp)).1
    rw [outlineBranches_cons, outlineItem, List.cons_append, List.append_assoc]
    exact List.forall_mem_cons.2 ⟨tidyOpening, List.forall_mem_append.2
      ⟨ihInner inside (depth + 1) depth, List.forall_mem_cons.2 ⟨closes, ihOthers later depth bars⟩⟩⟩
  | @bar b rest rows ess blank others ih =>
    obtain ⟨⟨items, more, rfl⟩, -⟩ := others.exists_rows
    rw [outlineBranches, outlineRow, List.nil_append]
    exact List.forall_mem_cons.2 ⟨tidyBar, ih held depth bars⟩

theorem explode_arranged (arranged : Arranged options source.toList [items] [es])
    (standard : options.engine = Expression.standard)
    (held : ∀ s ∈ settersOf es, Held (printSetter s)) :
    (explode source).toList = (outlineRow 0 items).flatMap fun line => indent line ++ ['\n'] := by
  rw [← List.flatMap_singleton settersOf es] at held
  have lines := arranged.written standard held 0 (.inl rfl) flushes_nil
  have tidy := arranged.tidy standard held 0 0
  rw [List.append_nil, segments_nil] at lines
  rw [toList_explode, lines, outlineBranches, writeLine_nil, List.nil_append, written, Layout.lines,
    List.flatMap_singleton, writeLine_nil, List.append_nil, List.flatMap_def, List.flatMap_def]
  exact congrArg List.flatten (List.map_congr_left fun line mem => (tidy line mem).writeLine line.1)

/-! ## Lines are read off -/

theorem intercalate_lines (rows : List (Nat × List Char)) :
    ['\n'].intercalate (rows.map indent ++ [[]]) = rows.flatMap fun line => indent line ++ ['\n'] := by
  induction rows with
  | nil => rfl
  | cons line rows ih =>
    obtain ⟨next, more, eq⟩ := List.exists_cons_of_ne_nil
      (List.append_ne_nil_of_right_ne_nil (rows.map indent) (List.cons_ne_nil [] []))
    rw [List.flatMap_cons, ← ih, List.map_cons, List.cons_append, eq, List.intercalate_cons_cons]

/-- A text of which the lines are known is put together from them, and the other way round. -/
theorem splitOn_eq_iff {rows : List (Nat × List Char)} (noLine : ∀ line ∈ rows, '\n' ∉ line.2) :
    text.splitOn '\n' = rows.map indent ++ [[]]
      ↔ text = rows.flatMap fun line => indent line ++ ['\n'] := by
  rw [← intercalate_lines]
  constructor
  · intro same
    rw [← same, List.intercalate_splitOn]
  · rintro rfl
    refine List.splitOn_intercalate '\n' (fun line mem inside => ?_) (by simp)
    simp only [List.mem_append, List.mem_map, List.mem_singleton] at mem
    obtain ⟨row, mem, rfl⟩ | rfl := mem
    · rw [indent, List.mem_append, List.mem_replicate] at inside
      exact noLine row mem (inside.resolve_left fun tab => absurd tab.2 (by decide))
    · cases inside

/-! ## What a line that is not broken shows -/

theorem Joined.length {last : Option Char} (h : Joined last text segs) :
    text.length + segs.count .space = room segs := by
  induction h with
  | nil => rfl
  | space suffix others ih =>
    rw [room_cons, List.count_cons_self]
    simp only [Segment.room]
    omega
  | mark opening closing bar others ih =>
    rw [room_cons, List.count_cons_of_ne (by simp), List.length_cons]
    simp only [Segment.room]
    omega
  | verbatim nonempty starts others ih =>
    rw [room_cons, List.count_cons_of_ne (by simp), List.length_append]
    simp only [Segment.room]
    omega

/-- Where a line ends, more of the text follows, since none of it is lost. -/
theorem Parts.broken (h : Parts w segs) (tidy : Tidy line) (filled : w ≠ [])
    (ends : ∀ d ∈ w.getLast?, isSpace d = false) {rows : List (Nat × List Char)}
    (breaks : lines 0 line segs = (0, line) :: rows) :
    ∃ before more, written 0 line segs = before ++ '\n' :: more ∧ more ≠ [] := by
  have kept := solid_written 0 line segs
  have whole : written 0 line segs = line ++ '\n' :: rows.flatMap writeLine := by
    rw [written, breaks, written_cons, tidy.writeLine]
    simp
  refine ⟨line, _, whole, fun empty => ?_⟩
  rw [whole, empty, h.solid_eq, solid_append, List.append_right_inj] at kept
  obtain ⟨init, d, rfl⟩ := List.eq_nil_or_concat w |>.resolve_left filled
  have noSpace := ends d (by simp)
  rw [List.concat_eq_append, solid_append, solid_cons_space (by decide), solid_nil] at kept
  simp [solid, noSpace] at kept

/-- Segments are appended to a line, or a line break stands before more of their text. -/
theorem Parts.joined_or_broken (h : Parts w segs) (tidy : Tidy line)
    (ends : ∀ d ∈ w.getLast?, isSpace d = false) :
    (∃ text, Joined line.getLast? text segs)
      ∨ ∃ before more, written 0 line segs = before ++ '\n' :: more ∧ more ≠ [] := by
  induction h generalizing line with
  | nil => exact .inl ⟨[], .nil⟩
  | @space b cs segs blank nonempty others ih =>
    have later : ∀ d ∈ cs.getLast?, isSpace d = false := fun d last => ends d (by
      rw [List.getLast?_append, Option.mem_def.1 last, Option.some_or]
      rfl)
    by_cases suffix : segs.head?.any Segment.isSuffix = true
    · rw [written, lines_space_suffix suffix]
      refine (ih tidy later).imp_left ?_
      rintro ⟨text, joined⟩
      exact ⟨text, .space suffix joined⟩
    · rw [Bool.not_eq_true] at suffix
      exact .inr ((Parts.space blank nonempty others).broken tidy (by simp [nonempty]) ends
        (lines_space suffix 0 line))
  | @mark c cs segs noSpace others ih =>
    have later : ∀ d ∈ cs.getLast?, isSpace d = false := fun d last => ends d (by
      rw [← List.singleton_append, List.getLast?_append, Option.mem_def.1 last, Option.some_or]
      rfl)
    rcases breaks_or_goesOn_mark c 0 line segs
      with ⟨-, rows, breaks⟩ | ⟨⟨opening, closing, bar⟩, goesOn⟩
    · exact .inr ((Parts.mark noSpace others).broken tidy (List.cons_ne_nil _ _) ends breaks)
    · have tidy' : Tidy (line ++ [c]) := tidy.append (by rintro d ⟨rfl⟩; exact noSpace)
      rw [written, goesOn]
      refine (ih tidy' later).imp_left ?_
      rintro ⟨text, joined⟩
      rw [List.getLast?_append] at joined
      exact ⟨c :: text, .mark opening closing bar joined⟩
  | @verbatim c text cs segs noSpace inner others ih =>
    have later : ∀ d ∈ cs.getLast?, isSpace d = false := fun d last => ends d (by
      rw [← List.cons_append, List.getLast?_append, Option.mem_def.1 last, Option.some_or]
      rfl)
    rcases breaks_or_goesOn_verbatim tidy 0 (c :: text) segs
      with ⟨-, rows, breaks⟩ | ⟨starts, goesOn⟩
    · exact .inr ((Parts.verbatim noSpace inner others).broken tidy (List.cons_ne_nil _ _) ends
        breaks)
    · by_cases done : cs = []
      · subst done
        obtain rfl := others.eq_nil rfl
        exact .inl ⟨_, .verbatim (List.cons_ne_nil _ _) starts .nil⟩
      · have last : (line ++ c :: text).getLast? = (c :: text).getLast? := by
          simp [List.getLast?_append, List.getLast?_cons]
        rw [written, goesOn]
        refine (ih (tidy.append (inner done)) later).imp_left ?_
        rintro ⟨text', joined⟩
        rw [last] at joined
        exact ⟨c :: text ++ text', .verbatim (List.cons_ne_nil _ _) starts joined⟩

theorem trim_within (cs : List Char) : trim cs <:+: cs := by
  have start : trimStart cs <:+ cs := List.dropWhile_suffix _
  have stop : trimEnd (trimStart cs) <+: trimStart cs := by
    rw [trimEnd, ← List.reverse_suffix, List.reverse_reverse]
    exact List.dropWhile_suffix _
  exact stop.isInfix.trans start.isInfix

/-- What is written on one line after another text has been appended to it, without white space left
out. -/
theorem Parts.joined (h : Parts w segs) (tidy : Tidy line)
    (ends : ∀ d ∈ w.getLast?, isSpace d = false) (noLine : '\n' ∉ line ++ w)
    (same : written 0 line segs = line ++ w ++ ['\n']) :
    Joined line.getLast? w segs ∧ .space ∉ segs := by
  rcases h.joined_or_broken tidy ends with ⟨text, joined⟩ | ⟨before, more, whole, filled⟩
  · have row : writeLine (0, line ++ text) = line ++ w ++ ['\n'] := by
      have lines := joined.inLines 0 rfl []
      rw [List.append_nil, Layout.lines] at lines
      rw [← same, written, lines, List.flatMap_singleton]
    have trimmed : trim (line ++ text) = line ++ w := by
      rw [writeLine] at row
      dsimp only at row
      split at row
      · exact absurd row.symm (by simp)
      · exact List.append_cancel_right row
    have short := (trim_within (line ++ text)).length_le
    have total := joined.length
    have fits := h.room_le
    rw [trimmed, List.length_append, List.length_append] at short
    have asIs : line ++ text = line ++ w := by
      rw [← trimmed]
      refine ((trim_within (line ++ text)).eq_of_length ?_).symm
      rw [trimmed, List.length_append, List.length_append]
      omega
    obtain rfl := List.append_cancel_left asIs
    exact ⟨joined, List.count_eq_zero.1 (by omega)⟩
  · rw [same, List.append_eq_append_iff] at whole
    exfalso
    obtain ⟨between, eq, rest⟩ | ⟨between, eq, rest⟩ := whole
    · cases between with
      | nil => exact filled (List.cons.inj rest).2.symm
      | cons c between => simp at rest
    · cases between with
      | nil => exact filled (List.cons.inj rest).2
      | cons c between =>
        obtain rfl : '\n' = c := (List.cons.inj rest).1
        exact noLine (by simp [eq])

/-! ## Setters that show in the lines -/

theorem tidy_letterA : Tidy letterA :=
  tidy_word (@exists_letterA ⟨.atSpace, Expression.standard, none⟩).choose_spec

theorem settersText_print (words : ∀ s ∈ ss, Word options (printSetter s) (.setter s)) :
    SettersText options (ss.flatMap printSetter) (ss.flatMap printSetter) ss := by
  induction ss with
  | nil => exact .nil
  | cons s ss ih =>
    obtain ⟨here, later⟩ := List.forall_mem_cons.1 words
    exact .cons blank_nil here (ih later)

section

variable {allowed : Setter → Prop} {rows : List (List Setter)}

/-- Atoms with setters are written one on each line. -/
theorem Outlined.several (outlined : Outlined options allowed) (filled : rows ≠ [])
    (setters : ∀ ss ∈ rows, ∀ s ∈ ss,
      allowed s ∧ Word options (printSetter s) (.setter s) ∧ '\n' ∉ printSetter s) :
    written 0 [] (segments (rows.flatMap fun ss => letterA ++ ss.flatMap printSetter))
      = rows.flatMap fun ss => letterA ++ ss.flatMap printSetter ++ ['\n'] := by
  obtain ⟨a, word⟩ := @exists_letterA options
  obtain ⟨p, compiled, elements⟩ :=
    compile_atoms word (fun ss mem s mem' => (setters ss mem s mem').2.1) filled
  have only : ∀ s ∈ settersOf p.elements, allowed s := by
    rw [elements]
    clear elements compiled filled
    induction rows with
    | nil => exact fun s mem => nomatch mem
    | cons ss rows ih =>
      obtain ⟨here, later⟩ := List.forall_mem_cons.1 setters
      rw [List.map_cons, settersOf_cons, settersOf_atom]
      exact List.forall_mem_append.2 ⟨fun s mem => (here s mem).1, ih later⟩
  have arranged : Arranged options (rows.flatMap fun ss => letterA ++ ss.flatMap printSetter)
      [rows.map fun ss => .leaf (letterA ++ ss.flatMap printSetter)] [p.elements] := by
    rw [elements]
    clear only elements compiled filled
    induction rows with
    | nil => exact .nil blank_nil
    | cons ss rows ih =>
      obtain ⟨here, later⟩ := List.forall_mem_cons.1 setters
      rw [List.flatMap_cons, List.append_assoc]
      exact .atom blank_nil word (.once (settersText_print fun s mem => (here s mem).2.1)) (ih later)
  have outline (rows : List (List Setter)) :
      outlineRow 0 (rows.map fun ss => .leaf (letterA ++ ss.flatMap printSetter))
        = rows.map fun ss => (0, letterA ++ ss.flatMap printSetter) := by
    induction rows with
    | nil => rfl
    | cons ss rows ih => rw [List.map_cons, outlineRow, ih]; rfl
  have noLine : ∀ line ∈ outlineRow 0
      (rows.map fun ss => .leaf (letterA ++ ss.flatMap printSetter)), '\n' ∉ line.2 := by
    intro line mem
    rw [outline] at mem
    obtain ⟨ss, listed, rfl⟩ := List.mem_map.1 mem
    rw [List.mem_append, List.mem_flatMap]
    rintro (inside | ⟨s, mem', inside⟩)
    · exact absurd inside (by decide)
    · exact (setters ss listed s mem').2.2 inside
  have lines := (splitOn_eq_iff noLine).1
    (outlined _ p _ compiled only (by rwa [String.toList_ofList]) noLine)
  rw [toList_explode, String.toList_ofList, outline, List.flatMap_map] at lines
  exact lines

theorem Outlined.single (outlined : Outlined options allowed)
    (setters : ∀ s ∈ ss, allowed s ∧ Word options (printSetter s) (.setter s) ∧ '\n' ∉ printSetter s) :
    Joined letterA.getLast? (ss.flatMap printSetter) (segments (ss.flatMap printSetter))
      ∧ .space ∉ segments (ss.flatMap printSetter) := by
  obtain ⟨a, word⟩ := @exists_letterA options
  have row := outlined.several (List.cons_ne_nil ss []) (List.forall_mem_singleton.2 setters)
  rw [List.flatMap_singleton, List.flatMap_singleton, segments_atom word, written_start] at row
  have complete := complete_setters fun s mem => (setters s mem).2.1
  refine (parts_segments _).joined tidy_letterA (fun d last => (complete d last).1)
    (fun inside => ?_) row
  rw [List.mem_append, List.mem_flatMap] at inside
  rcases inside with inside | ⟨s, mem, inside⟩
  · exact absurd inside (by decide)
  · exact (setters s mem).2.2 inside

/-- A setter stays in one piece and does not end in a colon if outlines can be read off. -/
theorem Outlined.held (outlined : Outlined options allowed)
    (standard : options.engine = Expression.standard)
    (probes : ∀ s, Kept (printSetter s) → Level (printSetter s) → allowed s) (isAllowed : allowed s)
    (word : Word options (printSetter s) (.setter s)) (noLine : '\n' ∉ printSetter s) :
    Held (printSetter s) := by
  have alone := (outlined.single (List.forall_mem_singleton.2 ⟨isAllowed, word, noLine⟩)).1
  rw [List.flatMap_singleton] at alone
  have parted : Parted (printSetter s) := by
    refine (parted_or_hanging _ (complete_word word)).resolve_right fun hanging => ?_
    -- what closes the delimiter that is open has white space after it
    obtain ⟨ss, sure, exposed, -⟩ := hanging.exposed standard
    have setters : ∀ s' ∈ s :: ss,
        allowed s' ∧ Word options (printSetter s') (.setter s') ∧ '\n' ∉ printSetter s' :=
      List.forall_mem_cons.2 ⟨⟨isAllowed, word, noLine⟩, fun s' mem =>
        ⟨probes s' (sure s' mem).1.kept (sure s' mem).2, (sure s' mem).1.word, (sure s' mem).2.noLine⟩⟩
    have noSpace := (outlined.single setters).2
    rw [List.flatMap_cons] at noSpace
    exact noSpace exposed
  have inLines (depth : Nat) (line : List Char) (rest : List Segment) :
      lines depth line (segments (printSetter s) ++ rest)
        = lines depth (line ++ printSetter s) rest := by
    obtain ⟨rest', isAt⟩ := printSetter_at s
    obtain ⟨seg, segs, cut, isSuffix, -⟩ := segments_at rest'
    rw [← isAt] at cut
    rw [cut] at alone ⊢
    exact (alone.behind isSuffix _).inLines depth rfl rest
  refine ⟨parted, inLines, fun colon => ?_⟩
  -- an atom after the colon stays on the line
  have setters : ∀ ss ∈ [[s], []], ∀ s' ∈ ss,
      allowed s' ∧ Word options (printSetter s') (.setter s') ∧ '\n' ∉ printSetter s' := by
    simpa using ⟨isAllowed, word, noLine⟩
  obtain ⟨a, wordA⟩ := @exists_letterA options
  have two := outlined.several (List.cons_ne_nil _ _) setters
  have tidy : Tidy (letterA ++ printSetter s ++ letterA) := by
    rw [List.append_assoc]
    refine tidy_letterA.append fun d last => ?_
    obtain rfl : '"' = d := by simpa [letterA] using last
    decide
  have one : written 0 [] (segments (letterA ++ (printSetter s ++ letterA)))
      = letterA ++ printSetter s ++ letterA ++ ['\n'] := by
    have last := segments_atom wordA []
    have ends : (letterA ++ printSetter s).getLast? = some ':' := by
      rw [List.getLast?_append, colon, Option.some_or]
    rw [List.append_nil, segments_nil] at last
    rw [segments_atom wordA, written_start, written, parted, inLines, last, lines,
      if_neg (by simp [ends]), lines, List.flatMap_singleton, tidy.writeLine]
    rfl
  have same : written 0 [] (segments (letterA ++ (printSetter s ++ letterA)))
      = letterA ++ printSetter s ++ ['\n'] ++ (letterA ++ ['\n']) := by
    simpa using two
  have lengths := congrArg List.length (one.symm.trans same)
  simp only [List.length_append, List.length_singleton] at lengths
  omega

end

/-- A text that compiles writes an outline. The lines of all texts that have no setters but those of a
compiled pattern, and others that stay in one piece and do not end in a colon, are their outlines,
just if the setters of that pattern do so, too. -/
theorem outlined_iff_held (standard : options.engine = Expression.standard)
    (h : compile options source = .ok p) (noLine : ∀ s ∈ settersOf p.elements, '\n' ∉ printSetter s) :
    (∃ items, Arranged options source.toList [items] [p.elements])
      ∧ (Outlined options (fun s => s ∈ settersOf p.elements ∨ Held (printSetter s))
        ↔ ∀ s ∈ settersOf p.elements, Held (printSetter s)) := by
  refine ⟨arranged_of_compile h, fun outlined s mem => ?_,
    fun held source' p' items compiled allowed arranged noLine' => ?_⟩
  · obtain ⟨-, -, ps, row, builds⟩ := compile_eq_ok_iff_written.1 h
    obtain ⟨w, -, word⟩ := Written.word row ((mem_settersOf builds).1 mem)
    rw [word_setter standard word] at word
    exact outlined.held standard (fun s kept level => .inr (kept.held level.noColon)) (.inl mem) word
      (noLine s mem)
  · refine (splitOn_eq_iff noLine').2 (explode_arranged arranged standard fun s mem => ?_)
    exact (allowed s mem).elim (held s) id

end

/-! ## Examples -/

theorem outlined_tagWithBrackets :
    compile ⟨.atSpace, Expression.standard, none⟩ "<a> @('(' = @x):n[\\]]" = .ok tagWithBrackets
      ∧ Outlined ⟨.atSpace, Expression.standard, none⟩
        (fun s => s ∈ settersOf tagWithBrackets.elements ∨ Held (printSetter s)) := by
  have only : ∀ s ∈ settersOf tagWithBrackets.elements, s = bracketSetter := by
    intro s mem
    simpa [tagWithBrackets] using mem
  refine ⟨compile_tagWithBrackets, (outlined_iff_held rfl compile_tagWithBrackets
    fun s mem => ?_).2.2 fun s mem => ?_⟩
  · rw [only s mem]
    decide
  · rw [only s mem]
    exact kept_bracketSetter.held (by decide)

/-- Two tags, where the setter of the first ends in a colon. -/
def tagsWithColon : Pattern :=
  ⟨"<a>@x:<b>", [.atom (.tag ⟨"a", [], none⟩) ⟨.once, [⟨"x:", none, .join none⟩]⟩,
    .atom (.tag ⟨"b", [], none⟩) .plain]⟩

theorem not_outlined_tagsWithColon :
    compile ⟨.atSpace, Expression.standard, none⟩ "<a>@x:<b>" = .ok tagsWithColon
      ∧ Arranged ⟨.atSpace, Expression.standard, none⟩ "<a>@x:<b>".toList
        [[.leaf "<a>@x:".toList, .leaf "<b>".toList]] [tagsWithColon.elements]
      ∧ (explode "<a>@x:<b>").toList.splitOn '\n'
        ≠ (outlineRow 0 [.leaf "<a>@x:".toList, .leaf "<b>".toList]).map indent ++ [[]] := by
  have name (c : Char) (inName : isNameChar c = true) : IsName [c] :=
    ⟨List.cons_ne_nil _ _, List.forall_mem_singleton.2 inName⟩
  have tag (c : Char) (inName : isNameChar c = true) (letter : isAlphabetic c = true) :
      Word ⟨.atSpace, Expression.standard, none⟩ ['<', c, '>']
        (.atom (.tag ⟨String.ofList [c], [], none⟩)) :=
    .tag (.intro blank_nil (name c inName) (by simp [Options.allowsType, letter])
      (by rintro d ⟨rfl⟩; rfl) (.close blank_nil))
  have setter : Word ⟨.atSpace, Expression.standard, none⟩ ['@', 'x', ':']
      (.setter ⟨"x:", none, .join none⟩) :=
    @Word.setter _ [] ['x', ':'] none (.join none) .none
      ⟨List.cons_ne_nil _ _, List.all_eq_true.1 (by decide)⟩ trivial
  have suffix : SuffixText ⟨.atSpace, Expression.standard, none⟩ ['@', 'x', ':'] ['@', 'x', ':']
      ⟨.once, [⟨"x:", none, .join none⟩]⟩ := .once (.cons blank_nil setter .nil)
  refine ⟨compile_eq_ok_iff_written.2 ⟨rfl, List.cons_ne_nil _ _, _,
    .cons blank_nil (tag 'a' rfl rfl) <| .cons blank_nil setter <| .cons blank_nil (tag 'b' rfl rfl) <|
      .nil blank_nil, .atom (.atom .done)⟩,
    .atom blank_nil (tag 'a' rfl rfl) suffix <| .atom blank_nil (tag 'b' rfl rfl) (.once .nil) <|
      .nil blank_nil, ?_⟩
  have lines : explode "<a>@x:<b>" = "<a>@x:<b>\n" := by
    cbv
  rw [lines]
  decide

end SpanSearch.Layout
