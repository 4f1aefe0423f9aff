import Mathlib.Data.Nat.Find
import SpanSearch.Proofs.Layout.Probes
import SpanSearch.Proofs.Pattern.Collapse
import SpanSearch.Proofs.Pattern.Setters

/-! # Setters that the layouts do not keep

A setter that the layouts do not keep is changed by them, or the text after it is, in some pattern
that has setters otherwise kept. It is found as follows: the shortest atom with the setter shows what
happens to the setter itself, and setters that close what it leaves open show what happens after it.
-/

namespace SpanSearch.Layout

open Unicode Pattern

/-- Whether a text is the shortest one that writes an atom. -/
structure Shortest (options : Options) (a : Atom) (w : List Char) : Prop where
  word : Word options w (.atom a)
  least : ∀ a' w', Word options w' (.atom a') → w.length ≤ w'.length

/-- Whether the layouts of a text compile to patterns of the same structure, provided that it has only
setters that are allowed. -/
def Harmless (options : Options) (allowed : Setter → Prop) : Prop :=
  ∀ source p, compile options source = .ok p → (∀ s ∈ settersOf p.elements, allowed s) →
    ∀ text ∈ layouts source, ∃ q, compile options text = .ok q ∧ q.same p = true

section

variable {options : Options} {source : String} {p q : Pattern} {a : Atom} {s : Setter}
  {ss : List Setter} {ps : List Piece} {w cs : List Char}

/-! ## The first word -/

theorem boundary_at (rest : List Char) : Boundary ('@' :: rest) := by
  rintro c ⟨rfl⟩
  exact ⟨by decide, by decide⟩

/-- A row that starts with a word writes its piece first. -/
theorem written_rest {p : Piece} (word : Word options w p) (boundary : Boundary cs)
    (h : Written options (w ++ cs) ps) : ∃ ps', ps = p :: ps' ∧ Written options cs ps' := by
  obtain ⟨c, rest, whole, noSpace, reads⟩ := word.read boundary
  have starts : trimStart (w ++ cs) = c :: rest := by rw [whole, trimStart_cons noSpace]
  obtain ⟨p', after, ps', rfl, reads', others⟩ := (spells_starts starts).1 (spells_iff_written.2 h)
  cases reads.symm.trans reads'
  exact ⟨ps', rfl, spells_iff_written.1 others⟩

/-- A row that starts with an at sign starts with a setter. -/
theorem setter_of_at (standard : options.engine = Expression.standard)
    (h : Written options ('@' :: cs) ps) :
    ∃ s rest, s ∈ settersOfPieces ps ∧ '@' :: cs = printSetter s ++ rest := by
  generalize whole : '@' :: cs = text at h
  cases h with
  | nil blank =>
    subst whole
    exact absurd (blank '@' (.head _)) (by decide)
  | @cons b w rest p ps blank word others =>
    cases b with
    | cons c b =>
      obtain rfl : '@' = c := (List.cons.inj whole).1
      exact absurd (blank '@' (.head _)) (by decide)
    | nil =>
      rw [List.nil_append] at whole ⊢
      have setter : ∃ s, p = .setter s := by
        cases word with
        | setter => exact ⟨_, rfl⟩
        | _ => exact absurd (List.cons.inj whole).1 (by decide)
      obtain ⟨s, rfl⟩ := setter
      exact ⟨s, rest, .head _, by rw [word_setter standard word]⟩

/-! ## The shortest atom -/

/-- Pieces without atoms build nothing. -/
theorem Builds.eq_nil {frames : List Frame} {elements out : List Element}
    (h : Builds frames elements ps out) (empty : elements = []) (none : ∀ a, .atom a ∉ ps) :
    out = [] := by
  induction h with
  | done => exact empty
  | opening inner ih => exact ih rfl fun a mem => none a (.tail _ mem)
  | closing filled outer ih => exact absurd empty filled
  | bar filled next ih => exact absurd empty filled
  | atom next ih => exact absurd (.head _) (none _)

theorem Written.word {p : Piece} (h : Written options cs ps) (mem : p ∈ ps) :
    ∃ w, w <:+: cs ∧ Word options w p := by
  induction h with
  | nil => cases mem
  | @cons b w cs p' ps blank word others ih =>
    rcases List.mem_cons.1 mem with rfl | mem
    · exact ⟨w, ⟨b, cs, by simp⟩, word⟩
    · obtain ⟨w', ⟨before, after, rfl⟩, word'⟩ := ih mem
      exact ⟨w', ⟨b ++ (w ++ before), after, by simp⟩, word'⟩

theorem exists_shortest (h : compile options source = .ok p) : ∃ a w, Shortest options a w := by
  obtain ⟨-, nonempty, ps, row, builds⟩ := compile_eq_ok_iff_written.1 h
  have some : ∃ n a w, Word options w (.atom a) ∧ w.length = n := by
    by_contra none
    refine nonempty (Builds.eq_nil builds rfl fun a mem => ?_)
    obtain ⟨w, -, word⟩ := Written.word row mem
    exact none ⟨_, a, w, word, rfl⟩
  classical
  obtain ⟨a, w, word, length⟩ := Nat.find_spec some
  refine ⟨a, w, word, fun a' w' word' => ?_⟩
  rw [length]
  exact Nat.find_min' some ⟨a', w', word', rfl⟩

/-! ## What is written after it -/

/-- Atoms with setters in a row compile. -/
theorem compile_atoms {rows : List (List Setter)} (word : Word options w (.atom a))
    (words : ∀ ss ∈ rows, ∀ s ∈ ss, Word options (printSetter s) (.setter s)) (filled : rows ≠ []) :
    ∃ p, compile options (String.ofList (rows.flatMap fun ss => w ++ ss.flatMap printSetter)) = .ok p
      ∧ p.elements = rows.map fun ss => .atom a ⟨.once, ss⟩ := by
  have setters {ss : List Setter} (words : ∀ s ∈ ss, Word options (printSetter s) (.setter s)) :
      Written options (ss.flatMap printSetter) (ss.map .setter) := by
    induction ss with
    | nil => exact .nil blank_nil
    | cons s ss ih =>
      obtain ⟨here, later⟩ := List.forall_mem_cons.1 words
      exact .cons blank_nil here (ih later)
  have row : Written options (rows.flatMap fun ss => w ++ ss.flatMap printSetter)
      (rows.flatMap fun ss => .atom a :: ss.map .setter) := by
    clear filled
    induction rows with
    | nil => exact .nil blank_nil
    | cons ss rows ih =>
      obtain ⟨here, later⟩ := List.forall_mem_cons.1 words
      rw [List.flatMap_cons, List.flatMap_cons]
      exact (Written.cons blank_nil word (setters here)).append (ih later)
  have builds (before : List Element) : Builds [] before
      (rows.flatMap fun ss => .atom a :: ss.map .setter)
      (before ++ rows.map fun ss => .atom a ⟨.once, ss⟩) := by
    clear words filled row
    induction rows generalizing before with
    | nil =>
      rw [List.map_nil, List.append_nil]
      exact .done
    | cons ss rows ih =>
      have ends : EndsSuffix (rows.flatMap fun ss => .atom a :: ss.map .setter) := by
        cases rows <;> simp [EndsSuffix]
      have suffix := takeSuffix_pieces ⟨.once, ss⟩ ends
      rw [piecesOfSuffix, if_pos rfl, List.nil_append] at suffix
      have next := ih (before ++ [.atom a ⟨.once, ss⟩])
      rw [List.append_assoc, List.singleton_append] at next
      rw [List.flatMap_cons, List.cons_append]
      refine .atom ?_
      rwa [suffix]
  refine ⟨⟨_, rows.map fun ss => .atom a ⟨.once, ss⟩⟩, compile_eq_ok_iff_written.2 ⟨rfl, ?_, _, ?_,
    builds []⟩, rfl⟩
  · simpa using filled
  · rwa [String.toList_ofList]

theorem compile_atom (word : Word options w (.atom a))
    (words : ∀ s ∈ ss, Word options (printSetter s) (.setter s)) :
    ∃ p, compile options (String.ofList (w ++ ss.flatMap printSetter)) = .ok p
      ∧ p.elements = [.atom a ⟨.once, ss⟩] := by
  have single := compile_atoms word (List.forall_mem_singleton.2 words) (List.cons_ne_nil ss [])
  rwa [List.flatMap_singleton] at single

/-- A regular expression as it is written. -/
def letterA : List Char := ['"', 'a', '"']

theorem exists_letterA : ∃ a, Word options letterA (.atom a) :=
  ⟨_, @Word.regex options ['a'] (.char (by decide) (by decide) .nil) (by simp) rfl⟩

/-- A text is at least as long as the atoms and setters that it writes. -/
theorem Shortest.le_length (standard : options.engine = Expression.standard)
    (shortest : Shortest options a w) (h : Written options cs ps) :
    w.length * (atomsOfPieces ps).length + ((settersOfPieces ps).flatMap printSetter).length
      ≤ cs.length := by
  induction h with
  | nil => exact Nat.zero_le _
  | @cons b w' cs p ps blank word others ih =>
    rw [List.length_append, List.length_append]
    cases p with
    | atom a' =>
      have least := shortest.least a' w' word
      change w.length * ((atomsOfPieces ps).length + 1)
        + ((settersOfPieces ps).flatMap printSetter).length ≤ _
      rw [Nat.mul_add_one]
      omega
    | setter s =>
      change w.length * (atomsOfPieces ps).length
        + ((s :: settersOfPieces ps).flatMap printSetter).length ≤ _
      rw [List.flatMap_cons, List.length_append, ← word_setter standard word]
      omega
    | opening | closing | bar | bounds =>
      change w.length * (atomsOfPieces ps).length
        + ((settersOfPieces ps).flatMap printSetter).length ≤ _
      omega

theorem printSetter_of_same {s s' : Setter} (h : s.same s' = true) : printSetter s = printSetter s' := by
  obtain ⟨name, e, policy⟩ := s
  obtain ⟨name', e', policy'⟩ := s'
  simp only [Setter.same, Expression.same, Bool.and_eq_true, beq_iff_eq] at h
  obtain ⟨⟨rfl, rfl⟩, source⟩ := h
  cases e with
  | none =>
    cases e' with
    | none => rfl
    | some e' => cases source
  | some e =>
    cases e' with
    | none => cases source
    | some e' =>
      have same : e.source = e'.source := Option.some.inj source
      simp [printSetter, same]

theorem printSetters_of_same {ss ss' : List Setter} (h : sameItems Setter.same ss ss' = true) :
    ss.map printSetter = ss'.map printSetter := by
  fun_induction sameItems Setter.same ss ss' with
  | case1 => rfl
  | case2 s ss s' ss' ih =>
    rw [Bool.and_eq_true] at h
    rw [List.map_cons, List.map_cons, printSetter_of_same h.1, ih h.2]
  | case3 => cases h

theorem elements_of_same {es : List Element}
    (same : Element.sameList es [.atom a ⟨.once, ss⟩] = true) :
    ∃ a' b ss', es = [.atom a' ⟨b, ss'⟩] ∧ ss'.map printSetter = ss.map printSetter := by
  match es, same with
  | [], same => simp [Element.sameList] at same
  | .atom a' ⟨b, ss'⟩ :: es, same =>
    rw [Element.sameList, Bool.and_eq_true, Element.same, Bool.and_eq_true, Suffix.same,
      Bool.and_eq_true] at same
    obtain ⟨⟨-, -, setters⟩, rest⟩ := same
    cases es with
    | nil => exact ⟨a', b, ss', rfl, printSetters_of_same setters⟩
    | cons e es => simp [Element.sameList] at rest
  | .sequence children suffix :: es, same => simp [Element.sameList, Element.same] at same
  | .choice branches suffix :: es, same => simp [Element.sameList, Element.same] at same

/-- What is written in a text that compiles to an atom with setters. -/
theorem written_of_same (h : compile options source = .ok q) (same : q.same p = true)
    (elements : p.elements = [.atom a ⟨.once, ss⟩]) :
    ∃ ps ss', Written options source.toList ps ∧ (atomsOfPieces ps).length = 1
      ∧ (settersOfPieces ps).Perm ss' ∧ ss'.map printSetter = ss.map printSetter := by
  obtain ⟨-, -, ps, row, builds⟩ := compile_eq_ok_iff_written.1 h
  rw [Pattern.same, elements] at same
  obtain ⟨a', b, ss', eq, printed⟩ := elements_of_same same
  have atoms := builds.atoms
  have setters := builds.setters
  rw [eq, atomsOf_atom] at atoms
  rw [eq, settersOf_atom] at setters
  refine ⟨ps, ss', row, ?_, ?_, printed⟩
  · simpa [atomsOfFrames] using (congrArg List.length atoms).symm
  · simpa [settersOfFrames] using setters.symm

/-! ## What the layouts make of it -/

theorem segments_atom (h : Word options w (.atom a)) (after : List Char) :
    segments (w ++ after) = .verbatim w :: segments after := by
  obtain ⟨seg, is, parted⟩ := segments_word h (by simp)
  rw [parted]
  cases is with
  | verbatim text => rfl
  | mark c =>
    exfalso
    generalize single : [c] = w at h
    cases h with
    | literal | regex => simp at single
    | tag written =>
      obtain ⟨body, rfl, -⟩ := closes_tagText written
      simp at single

section

variable {allowed : Setter → Prop}

theorem Harmless.row (harmless : Harmless options allowed) (shortest : Shortest options a w)
    (setters : ∀ s ∈ ss, allowed s ∧ Word options (printSetter s) (.setter s)) :
    ∀ text ∈ layouts (String.ofList (w ++ ss.flatMap printSetter)),
      ∃ ps ss', Written options text.toList ps ∧ (atomsOfPieces ps).length = 1
        ∧ (settersOfPieces ps).Perm ss' ∧ ss'.map printSetter = ss.map printSetter := by
  obtain ⟨p, compiled, elements⟩ := compile_atom shortest.word fun s mem => (setters s mem).2
  intro text mem
  have only : ∀ s ∈ settersOf p.elements, allowed s := by
    intro s mem
    rw [elements, settersOf_atom] at mem
    exact (setters s mem).1
  obtain ⟨q, compiled', same⟩ := harmless _ p compiled only text mem
  exact written_of_same compiled' same elements

theorem Harmless.length_le (harmless : Harmless options allowed)
    (standard : options.engine = Expression.standard) (shortest : Shortest options a w)
    (setters : ∀ s ∈ ss, allowed s ∧ Word options (printSetter s) (.setter s)) :
    ∀ text ∈ layouts (String.ofList (w ++ ss.flatMap printSetter)),
      w.length + (ss.flatMap printSetter).length ≤ text.toList.length := by
  intro text mem
  obtain ⟨ps, ss', row, one, perm, printed⟩ := harmless.row shortest setters text mem
  have long := shortest.le_length standard row
  have total : ((settersOfPieces ps).flatMap printSetter).length
      = (ss.flatMap printSetter).length := by
    rw [(perm.flatMap_right printSetter).length_eq, List.flatMap_def, printed, ← List.flatMap_def]
  rwa [one, Nat.mul_one, total] at long

/-- If a setter that leaves a delimiter open is not harmless, the setters that close it show it. -/
theorem Harmless.not_hanging (harmless : Harmless options allowed)
    (standard : options.engine = Expression.standard) (shortest : Shortest options a w)
    (probes : ∀ s, Sure options s → allowed s) (isAllowed : allowed s)
    (word : Word options (printSetter s) (.setter s)) : ¬ Hanging (printSetter s) := by
  intro hanging
  obtain ⟨ss, sure, -, shorter⟩ := hanging.exposed standard
  have setters : ∀ s' ∈ s :: ss, allowed s' ∧ Word options (printSetter s') (.setter s') :=
    List.forall_mem_cons.2 ⟨⟨isAllowed, word⟩, fun s' mem =>
      ⟨probes s' (sure s' mem).1, (sure s' mem).1.word⟩⟩
  have long := harmless.length_le standard shortest setters _ (.tail _ (.head _))
  have short := length_oneLine_le (segments (w ++ (s :: ss).flatMap printSetter)) none false
  rw [toList_normalize, String.toList_ofList] at long
  rw [List.flatMap_cons] at long short
  rw [segments_atom shortest.word, room_cons] at short
  rw [segments_atom shortest.word] at long
  simp only [Segment.room, Bool.toNat_false] at short
  omega

/-- A setter starts with an at sign, to both layouts. -/
theorem segments_at (cs : List Char) :
    ∃ seg segs, segments ('@' :: cs) = seg :: segs ∧ seg.isSuffix = true ∧ seg ≠ .space
      ∧ ∃ rest, seg.oneLine = '@' :: rest := by
  by_cases scope : cs.head? = some '('
  · obtain ⟨rest, rfl⟩ := List.head?_eq_some_iff.1 scope
    exact ⟨_, _, segments_scope rfl, rfl, nofun, _, oneLine_verbatim (by simp) (by simp)⟩
  · exact ⟨_, _, segments_mark (by decide) rfl fun _ => scope, rfl, nofun, [], rfl⟩

theorem printSetter_at (s : Setter) : ∃ rest, printSetter s = '@' :: rest := by
  obtain ⟨name, e, policy⟩ := s
  cases e <;> exact ⟨_, rfl⟩

theorem Harmless.row_single (harmless : Harmless options allowed)
    (shortest : Shortest options a w) (isAllowed : allowed s)
    (word : Word options (printSetter s) (.setter s)) :
    ∀ text ∈ layouts (String.ofList (w ++ printSetter s)),
      ∃ ps s', Written options text.toList ps ∧ settersOfPieces ps = [s']
        ∧ printSetter s' = printSetter s := by
  intro text mem
  have only : ∀ s' ∈ [s], allowed s' ∧ Word options (printSetter s') (.setter s') :=
    List.forall_mem_singleton.2 ⟨isAllowed, word⟩
  rw [← List.flatMap_singleton printSetter s] at mem
  obtain ⟨ps, ss', row, -, perm, printed⟩ := harmless.row shortest only text mem
  obtain ⟨s', rfl, same⟩ := List.map_eq_singleton_iff.1 printed
  exact ⟨ps, s', row, List.perm_singleton.1 perm, same⟩

/-- A harmless setter stays as it is on one line. -/
theorem Harmless.stays (harmless : Harmless options allowed)
    (standard : options.engine = Expression.standard) (shortest : Shortest options a w)
    (isAllowed : allowed s) (word : Word options (printSetter s) (.setter s)) (last : Option Char) :
    oneLine last false (segments (printSetter s)) = printSetter s := by
  obtain ⟨ps, s', row, only, same⟩ :=
    harmless.row_single shortest isAllowed word _ (.tail _ (.head _))
  obtain ⟨rest, isAt⟩ := printSetter_at s
  obtain ⟨seg, segs, cut, -, notSpace, tail, start⟩ := segments_at rest
  have anyLast (last last' : Option Char) : oneLine last false (segments (printSetter s))
      = oneLine last' false (segments (printSetter s)) := by
    rw [isAt, cut, oneLine_next notSpace, oneLine_next notSpace]
  have first := @oneLine_next (.verbatim w) Segment.noConfusion none (segments (printSetter s))
  rw [toList_normalize, String.toList_ofList, segments_atom shortest.word, first] at row
  have boundary : Boundary (oneLine (Segment.verbatim w).oneLine.getLast? false
      (segments (printSetter s))) := by
    rw [isAt, cut, oneLine_next notSpace, start]
    exact boundary_at _
  obtain ⟨ps', rfl, row'⟩ :=
    written_rest (word_oneLine shortest.word (.verbatim w)) boundary row
  -- the setter is in there, and there is no room for more
  have mem : Piece.setter s' ∈ ps' := by
    rw [← mem_settersOfPieces]
    change s' ∈ settersOfPieces (.atom a :: ps')
    rw [only]
    exact .head _
  obtain ⟨w', inside, word'⟩ := Written.word row' mem
  rw [word_setter standard word', same] at inside
  have short := length_oneLine_le (segments (printSetter s))
    (Segment.verbatim w).oneLine.getLast? false
  have fits := (parts_segments (printSetter s)).room_le
  have long := inside.length_le
  rw [Bool.toNat_false] at short
  rw [anyLast last]
  exact (inside.eq_of_length (by omega)).symm

theorem tidy_word {p : Piece} (h : Word options w p) : Tidy w := by
  obtain ⟨c, rest, eq, noSpace, -⟩ := h.starts
  obtain ⟨text, d, eq', noSpace', -⟩ := last_of_word h
  exact ⟨⟨c, rest, eq, noSpace⟩, ⟨text, d, eq', noSpace'⟩⟩

theorem complete_word {p : Piece} (h : Word options w p) : Complete w := by
  obtain ⟨text, c, eq, ends⟩ := last_of_word h
  intro d last
  obtain rfl : c = d := by simpa [eq] using last
  exact ends

theorem complete_setters (words : ∀ s ∈ ss, Word options (printSetter s) (.setter s)) :
    Complete (ss.flatMap printSetter) := by
  induction ss with
  | nil => exact fun d last => nomatch last
  | cons s ss ih =>
    obtain ⟨here, later⟩ := List.forall_mem_cons.1 words
    intro d last
    rw [List.flatMap_cons, List.getLast?_append, Option.mem_def, Option.or_eq_some_iff] at last
    rcases last with last | ⟨-, last⟩
    · exact ih later d last
    · exact complete_word here d last

/-- A harmless setter is not broken over several lines. -/
theorem Harmless.glued (harmless : Harmless options allowed)
    (standard : options.engine = Expression.standard) (shortest : Shortest options a w)
    (isAllowed : allowed s) (word : Word options (printSetter s) (.setter s)) :
    Glued w.getLast? (printSetter s) (segments (printSetter s)) := by
  obtain ⟨ps, s', row, only, same⟩ := harmless.row_single shortest isAllowed word _ (.head _)
  rw [toList_explode, String.toList_ofList, segments_atom shortest.word, written_start] at row
  refine (glued_or_broken (parts_segments (printSetter s))
    (harmless.stays standard shortest isAllowed word _) (tidy_word shortest.word)
    rfl).resolve_right ?_
  rintro ⟨before, c, after, more, whole, noLine, broken, suffix⟩
  obtain ⟨rest, isAt⟩ := printSetter_at s
  obtain ⟨seg, segs, cut, isSuffix, -⟩ := segments_at rest
  have starts : ∃ before', before = '@' :: before' := by
    cases before with
    | nil =>
      have noSuffix := suffix rfl seg (by rw [isAt, cut]; rfl)
      rw [isSuffix] at noSuffix
      cases noSuffix
    | cons d before =>
      rw [isAt] at whole
      exact ⟨before, by rw [(List.cons.inj whole).1]⟩
  obtain ⟨before, rfl⟩ := starts
  rw [broken, List.cons_append] at row
  obtain ⟨ps', rfl, row'⟩ := written_rest shortest.word (boundary_at _) row
  obtain ⟨s'', rest', mem, eq⟩ := setter_of_at standard row'
  change settersOfPieces ps' = [s'] at only
  obtain rfl : s'' = s' := by simpa [only] using mem
  -- the break stands where the setter goes on
  rw [same, whole] at eq
  simp only [List.cons_append, List.append_assoc] at eq
  have next := List.append_cancel_left (List.cons.inj eq).2
  exact noLine (List.cons.inj next).1.symm

/-- The layouts keep harmless setters. -/
theorem Harmless.kept (harmless : Harmless options allowed)
    (standard : options.engine = Expression.standard) (shortest : Shortest options a w)
    (probes : ∀ s, Sure options s → allowed s) (isAllowed : allowed s)
    (word : Word options (printSetter s) (.setter s)) : Kept (printSetter s) := by
  have parted : Parted (printSetter s) := (parted_or_hanging _ (complete_word word)).resolve_right
    (harmless.not_hanging standard shortest probes isAllowed word)
  have glued := harmless.glued standard shortest isAllowed word
  obtain ⟨rest, isAt⟩ := printSetter_at s
  obtain ⟨seg, segs, cut, isSuffix, -⟩ := segments_at rest
  rw [← isAt] at cut
  rw [cut] at glued
  refine kept_of_glued (by simp [isAt]) (glued.behind isSuffix none) isSuffix fun after => ?_
  rw [parted, cut]

end

end

end SpanSearch.Layout
