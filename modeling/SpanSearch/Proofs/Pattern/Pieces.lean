import Mathlib.Data.List.DropRight
import SpanSearch.Pattern.Parser

/-! # The pieces of patterns

The text of a pattern is a row of pieces with white space between them. Which piece comes next
depends on the text alone, and which elements the pieces make up depends on the pieces alone. So what
a text compiles to is told by two relations, of which the first knows nothing of groups and the
second nothing of characters.
-/

namespace SpanSearch.Pattern

open Unicode

/-- A piece of the text of a pattern. -/
inductive Piece where
  | opening
  | closing
  | bar
  | atom (a : Atom)
  | bounds (b : Bounds)
  | setter (s : Setter)

/-- Reads the piece that starts with `c`. -/
def readPiece (options : Options) (c : Char) (cs : List Char) : Attempt (Piece × List Char) :=
  if c == '(' then .ok (.opening, cs)
  else if c == ')' then .ok (.closing, cs)
  else if c == '|' then .ok (.bar, cs)
  else if c == '@' then (readSetter options.engine cs).map fun (s, rest) => (.setter s, rest)
  else if isQuantifierMark c then (readBounds c cs).map fun (b, rest) => (.bounds b, rest)
  else (readAtom options c cs).map fun (a, rest) => (.atom a, rest)

/-- Whether a text is a row of pieces, with white space around them. -/
inductive Spells (options : Options) : List Char → List Piece → Prop
  | nil {cs : List Char} (blank : trimStart cs = []) : Spells options cs []
  | cons {cs rest after : List Char} {c : Char} {p : Piece} {ps : List Piece}
      (starts : trimStart cs = c :: rest) (reads : readPiece options c rest = .ok (p, after))
      (others : Spells options after ps) : Spells options cs (p :: ps)

/-- The setters at the start of a row of pieces, and the pieces after them. -/
def takeSetters : List Piece → List Setter × List Piece
  | .setter s :: ps => (s :: (takeSetters ps).1, (takeSetters ps).2)
  | ps => ([], ps)

/-- The bounds that a row of pieces starts with, and the pieces after them. -/
def takeBounds : List Piece → Bounds × List Piece
  | .bounds b :: ps => (b, ps)
  | ps => (.once, ps)

/-- The suffix that a row of pieces starts with, and the pieces after it. -/
def takeSuffix (ps : List Piece) : Suffix × List Piece :=
  (⟨(takeBounds ps).1, (takeSetters (takeBounds ps).2).1⟩, (takeSetters (takeBounds ps).2).2)

/-- What is known of a group that is open: the elements before it and its finished branches. -/
structure Frame where
  before : List Element
  branches : List (List Element)

/-- The elements that a row of pieces makes up, where `elements` have been read in the innermost of
the groups that are open. -/
inductive Builds : List Frame → List Element → List Piece → List Element → Prop
  | done {elements : List Element} : Builds [] elements [] elements
  | opening {frames : List Frame} {elements out : List Element} {ps : List Piece}
      (inner : Builds (⟨elements, []⟩ :: frames) [] ps out) :
      Builds frames elements (.opening :: ps) out
  | closing {frame : Frame} {frames : List Frame} {elements out : List Element} {ps : List Piece}
      (filled : elements ≠ [])
      (outer : Builds frames
        (frame.before ++ [ofBranches (frame.branches ++ [elements]) (takeSuffix ps).1])
        (takeSuffix ps).2 out) :
      Builds (frame :: frames) elements (.closing :: ps) out
  | bar {frame : Frame} {frames : List Frame} {elements out : List Element} {ps : List Piece}
      (filled : elements ≠ [])
      (next : Builds ({ frame with branches := frame.branches ++ [elements] } :: frames) [] ps out) :
      Builds (frame :: frames) elements (.bar :: ps) out
  | atom {frames : List Frame} {elements out : List Element} {a : Atom} {ps : List Piece}
      (next : Builds frames (elements ++ [.atom a (takeSuffix ps).1]) (takeSuffix ps).2 out) :
      Builds frames elements (.atom a :: ps) out

/-! ## Attempts -/

theorem map_eq_ok {x : Attempt α} {f : α → β} {y : β} :
    x.map f = .ok y ↔ ∃ a, x = .ok a ∧ f a = y := by
  cases x with
  | error t => simp [Except.map]
  | ok a => simp [Except.map]

theorem bind_eq_ok {x : Attempt α} {f : α → Attempt β} {y : β} :
    x >>= f = .ok y ↔ ∃ a, x = .ok a ∧ f a = .ok y := by
  cases x with
  | error t => simp [bind, Except.bind]
  | ok a => simp [bind, Except.bind]

/-! ## Reading pieces -/

section

variable {options : Options} {c : Char} {cs cs' rest after : List Char} {ps ps' : List Piece}

theorem trimStart_idem (cs : List Char) : trimStart (trimStart cs) = trimStart cs :=
  List.dropWhile_idempotent _ cs

/-- White space at the start of a text makes no difference. -/
theorem Spells.of_trimStart (h : Spells options cs ps) (same : trimStart cs' = trimStart cs) :
    Spells options cs' ps := by
  cases h with
  | nil blank => exact .nil (same.trans blank)
  | cons starts reads others => exact .cons (same.trans starts) reads others

theorem spells_trimStart : Spells options (trimStart cs) ps ↔ Spells options cs ps :=
  ⟨fun h => h.of_trimStart (trimStart_idem cs).symm, fun h => h.of_trimStart (trimStart_idem cs)⟩

theorem spells_blank (blank : trimStart cs = []) : Spells options cs ps ↔ ps = [] := by
  constructor
  · intro h
    cases h with
    | nil => rfl
    | cons starts => cases blank.symm.trans starts
  · rintro rfl
    exact .nil blank

theorem spells_starts (starts : trimStart cs = c :: rest) :
    Spells options cs ps
      ↔ ∃ p after others, ps = p :: others ∧ readPiece options c rest = .ok (p, after)
          ∧ Spells options after others := by
  constructor
  · intro h
    cases h with
    | nil blank => cases blank.symm.trans starts
    | cons starts' reads others =>
      cases starts.symm.trans starts'
      exact ⟨_, _, _, rfl, reads, others⟩
  · rintro ⟨p, after, others, rfl, reads, spells⟩
    exact .cons starts reads spells

theorem spells_cons {p : Piece} :
    Spells options cs (p :: ps)
      ↔ ∃ c rest after, trimStart cs = c :: rest ∧ readPiece options c rest = .ok (p, after)
          ∧ Spells options after ps := by
  constructor
  · intro h
    cases h with
    | cons starts reads others => exact ⟨_, _, _, starts, reads, others⟩
  · rintro ⟨c, rest, after, starts, reads, others⟩
    exact .cons starts reads others

/-- A text is a row of pieces in one way at most. -/
theorem Spells.unique (h : Spells options cs ps) (h' : Spells options cs ps') : ps = ps' := by
  induction h generalizing ps' with
  | nil blank => exact ((spells_blank blank).1 h').symm
  | cons starts reads others ih =>
    obtain ⟨p', after', others', rfl, reads', spells'⟩ := (spells_starts starts).1 h'
    cases reads.symm.trans reads'
    rw [ih spells']

/-! ## Suffixes -/

theorem readPiece_opening : readPiece options '(' cs = .ok (.opening, cs) := rfl

theorem readPiece_closing : readPiece options ')' cs = .ok (.closing, cs) := rfl

theorem readPiece_bar : readPiece options '|' cs = .ok (.bar, cs) := rfl

theorem readPiece_setter :
    readPiece options '@' cs
      = (readSetter options.engine cs).map fun (s, rest) => (.setter s, rest) := rfl

theorem readPiece_bounds (mark : isQuantifierMark c = true) :
    readPiece options c cs = (readBounds c cs).map fun (b, rest) => (.bounds b, rest) := by
  simp only [isQuantifierMark, Bool.or_eq_true, beq_iff_eq] at mark
  rcases mark with ((rfl | rfl) | rfl) | rfl <;> rfl

theorem readPiece_atom (opening : c ≠ '(') (closing : c ≠ ')') (bar : c ≠ '|') (setter : c ≠ '@')
    (mark : ¬ isQuantifierMark c = true) :
    readPiece options c cs = (readAtom options c cs).map fun (a, rest) => (.atom a, rest) := by
  simp only [readPiece, beq_iff_eq, opening, closing, bar, setter, mark, if_false]
  rfl

/-- What a piece starts with tells of which kind it is. -/
theorem readPiece_kind {p : Piece} (reads : readPiece options c cs = .ok (p, after)) :
    match p with
    | .opening => c = '('
    | .closing => c = ')'
    | .bar => c = '|'
    | .atom _ => c ≠ '(' ∧ c ≠ ')' ∧ c ≠ '|' ∧ c ≠ '@' ∧ ¬ isQuantifierMark c = true
    | .bounds _ => isQuantifierMark c = true
    | .setter _ => c = '@' := by
  unfold readPiece at reads
  simp only [beq_iff_eq] at reads
  split at reads
  · next same => cases reads; exact same
  · next notOpening =>
    split at reads
    · next same => cases reads; exact same
    · next notClosing =>
      split at reads
      · next same => cases reads; exact same
      · next notBar =>
        split at reads
        · next same =>
          obtain ⟨_, -, eq⟩ := map_eq_ok.1 reads
          cases eq
          exact same
        · next notSetter =>
          split at reads
          · next mark =>
            obtain ⟨_, -, eq⟩ := map_eq_ok.1 reads
            cases eq
            exact mark
          · next noMark =>
            obtain ⟨_, -, eq⟩ := map_eq_ok.1 reads
            cases eq
            exact ⟨notOpening, notClosing, notBar, notSetter, noMark⟩

theorem trimStart_starts (starts : trimStart cs = c :: rest) :
    trimStart (c :: rest) = c :: rest := by
  rw [← starts, trimStart_idem]

theorem readSetters_blank {engine : Expression.Engine} (blank : trimStart cs = []) :
    readSetters engine cs = .ok ([], []) := by
  rw [readSetters_eq, blank]

theorem readSetters_at {engine : Expression.Engine} {s : Setter}
    (starts : trimStart cs = '@' :: rest) (read : readSetter engine rest = .ok (s, after)) :
    readSetters engine cs
      = (readSetters engine after).map fun (setters, rest) => (s :: setters, rest) := by
  rw [readSetters_eq, starts]
  simp only [read]
  rfl

theorem readSetters_other {engine : Expression.Engine} (starts : trimStart cs = c :: rest)
    (other : c ≠ '@') : readSetters engine cs = .ok ([], c :: rest) := by
  rw [readSetters_eq, starts]
  split
  · next same => exact absurd (List.cons.inj same).1 other
  · rfl

theorem takeSetters_other {p : Piece} (reads : readPiece options c cs = .ok (p, after))
    (other : c ≠ '@') : takeSetters (p :: ps) = ([], p :: ps) := by
  cases p with
  | setter s => exact absurd (readPiece_kind reads) other
  | _ => rfl

theorem takeBounds_other {p : Piece} (reads : readPiece options c cs = .ok (p, after))
    (other : ¬ isQuantifierMark c = true) : takeBounds (p :: ps) = (.once, p :: ps) := by
  cases p with
  | bounds b => exact absurd (readPiece_kind reads) other
  | _ => rfl

/-- The setters that are read are those that the pieces of the text start with. -/
theorem spells_of_readSetters {ss : List Setter}
    (reads : readSetters options.engine cs = .ok (ss, after)) (others : Spells options after ps) :
    ∃ ps', Spells options cs ps' ∧ takeSetters ps' = (ss, ps) := by
  fun_induction readSetters options.engine cs generalizing ss with
  | case1 cs blank =>
    cases reads
    obtain rfl := (spells_blank rfl).1 others
    exact ⟨[], .nil blank, rfl⟩
  | case2 => cases reads
  | case3 cs c rest starts isAt s rest' read ih =>
    obtain rfl : c = '@' := by simpa using isAt
    obtain ⟨⟨ss', after'⟩, later, eq⟩ := map_eq_ok.1 reads
    cases eq
    obtain ⟨ps', spells, taken⟩ := ih later
    refine ⟨.setter s :: ps', .cons starts ?_ spells, ?_⟩
    · rw [readPiece_setter, read]
      rfl
    · rw [takeSetters, taken]
  | case4 cs c rest starts notAt =>
    cases reads
    refine ⟨ps, others.of_trimStart ?_, ?_⟩
    · rw [← starts, trimStart_idem]
    · obtain ⟨p, _, _, rfl, reads, -⟩ := (spells_starts (trimStart_starts starts)).1 others
      exact takeSetters_other reads (by simpa using notAt)

theorem readSetters_of_spells (spells : Spells options cs ps) :
    ∃ after, readSetters options.engine cs = .ok ((takeSetters ps).1, after)
      ∧ Spells options after (takeSetters ps).2 := by
  induction spells with
  | nil blank => exact ⟨[], readSetters_blank blank, .nil rfl⟩
  | @cons cs rest after c p ps starts reads others ih =>
    by_cases isAt : c = '@'
    · subst isAt
      obtain ⟨⟨s, _⟩, read, eq⟩ := map_eq_ok.1 (readPiece_setter.symm.trans reads)
      cases eq
      obtain ⟨after', later, spells'⟩ := ih
      refine ⟨after', ?_, spells'⟩
      rw [readSetters_at starts read, later]
      rfl
    · rw [takeSetters_other reads isAt]
      exact ⟨c :: rest, readSetters_other starts isAt, .cons (trimStart_starts starts) reads others⟩

/-- A quantifier is read if there is one, and no other one follows. -/
theorem readQuantifier_eq_ok {b : Bounds} :
    readQuantifier cs = .ok (b, after)
      ↔ after.head?.any isQuantifierMark = false
        ∧ (b = .once ∧ trimStart cs = after
          ∨ ∃ c rest left, trimStart cs = c :: rest ∧ isQuantifierMark c = true
            ∧ readBounds c rest = .ok (b, left) ∧ trimStart left = after) := by
  unfold readQuantifier
  cases starts : trimStart cs with
  | nil =>
    constructor
    · intro h
      cases h
      exact ⟨rfl, .inl ⟨rfl, rfl⟩⟩
    · rintro ⟨-, ⟨rfl, rfl⟩ | ⟨c, rest, left, ⟨⟩, -⟩⟩
      rfl
  | cons c rest =>
    dsimp only
    by_cases mark : isQuantifierMark c = true
    · rw [if_pos mark, bind_eq_ok]
      constructor
      · rintro ⟨⟨b', left⟩, read, h⟩
        dsimp only at h
        split at h
        · cases h
        · next single =>
          cases h
          exact ⟨eq_false_of_ne_true single, .inr ⟨c, rest, left, rfl, mark, read, rfl⟩⟩
      · rintro ⟨single, ⟨rfl, rfl⟩ | ⟨c', rest', left, ⟨⟩, -, read, rfl⟩⟩
        · exact absurd mark (by simpa using single)
        · exact ⟨_, read, if_neg (by simp [single])⟩
    · rw [if_neg mark]
      constructor
      · intro h
        cases h
        exact ⟨by simpa using mark, .inl ⟨rfl, rfl⟩⟩
      · rintro ⟨-, ⟨rfl, rfl⟩ | ⟨c', rest', left, ⟨⟩, mark', -⟩⟩
        · rfl
        · exact absurd mark' mark

theorem takeBounds_of_spells (spells : Spells options cs ps)
    (single : (trimStart cs).head?.any isQuantifierMark = false) :
    takeBounds ps = (.once, ps) := by
  cases spells with
  | nil => rfl
  | cons starts reads =>
    rw [starts] at single
    exact takeBounds_other reads (by simpa using single)

/-- The bounds that are read are those that the pieces of the text start with. -/
theorem spells_of_readQuantifier {b : Bounds}
    (reads : readQuantifier cs = .ok (b, after)) (others : Spells options after ps) :
    ∃ ps', Spells options cs ps' ∧ takeBounds ps' = (b, ps) := by
  obtain ⟨single, ⟨rfl, rfl⟩ | ⟨c, rest, left, starts, mark, read, rfl⟩⟩ :=
    readQuantifier_eq_ok.1 reads
  · refine ⟨ps, spells_trimStart.1 others, takeBounds_of_spells others ?_⟩
    rwa [trimStart_idem]
  · refine ⟨.bounds b :: ps, .cons starts ?_ (spells_trimStart.1 others), rfl⟩
    rw [readPiece_bounds mark, read]
    rfl

/-- Whether a row of pieces starts with bounds. -/
def startsBounds : List Piece → Bool
  | .bounds _ :: _ => true
  | _ => false

theorem readQuantifier_of_spells (spells : Spells options cs ps)
    (single : startsBounds (takeBounds ps).2 = false) :
    ∃ after, readQuantifier cs = .ok ((takeBounds ps).1, after)
      ∧ Spells options after (takeBounds ps).2 := by
  cases spells with
  | nil blank => exact ⟨[], readQuantifier_eq_ok.2 ⟨rfl, .inl ⟨rfl, blank⟩⟩, .nil rfl⟩
  | @cons cs rest after c p ps starts reads others =>
    by_cases mark : isQuantifierMark c = true
    · obtain ⟨⟨b, _⟩, read, eq⟩ := map_eq_ok.1 ((readPiece_bounds mark).symm.trans reads)
      cases eq
      refine ⟨trimStart after, readQuantifier_eq_ok.2
        ⟨?_, .inr ⟨c, rest, after, starts, mark, read, rfl⟩⟩, spells_trimStart.2 others⟩
      cases others with
      | nil blank => rw [blank]; rfl
      | @cons _ _ _ c p _ starts reads =>
        rw [starts, List.head?_cons, Option.any_some]
        by_contra again
        rw [Bool.not_eq_false] at again
        obtain ⟨_, -, eq⟩ := map_eq_ok.1 ((readPiece_bounds again).symm.trans reads)
        cases eq
        cases single
    · rw [takeBounds_other reads mark]
      exact ⟨c :: rest, readQuantifier_eq_ok.2 ⟨by simpa using mark, .inl ⟨rfl, starts⟩⟩,
        .cons (trimStart_starts starts) reads others⟩

theorem spells_of_readSuffix {s : Suffix} (reads : readSuffix options.engine cs = .ok (s, after))
    (others : Spells options after ps) :
    ∃ ps', Spells options cs ps' ∧ takeSuffix ps' = (s, ps) := by
  obtain ⟨⟨b, mid⟩, quantifier, reads⟩ := bind_eq_ok.1 reads
  obtain ⟨⟨ss, after'⟩, setters, eq⟩ := bind_eq_ok.1 reads
  cases eq
  obtain ⟨ps', spells, taken⟩ := spells_of_readSetters setters others
  obtain ⟨ps'', spells', taken'⟩ := spells_of_readQuantifier quantifier spells
  refine ⟨ps'', spells', ?_⟩
  simp only [takeSuffix, taken', taken]

theorem takeSetters_of_startsBounds (h : startsBounds ps = true) : takeSetters ps = ([], ps) := by
  unfold startsBounds at h
  split at h
  · rfl
  · cases h

theorem readSuffix_of_spells (spells : Spells options cs ps)
    (single : startsBounds (takeSuffix ps).2 = false) :
    ∃ after, readSuffix options.engine cs = .ok ((takeSuffix ps).1, after)
      ∧ Spells options after (takeSuffix ps).2 := by
  have single' : startsBounds (takeBounds ps).2 = false := by
    by_contra again
    rw [Bool.not_eq_false] at again
    rw [takeSuffix, takeSetters_of_startsBounds again, again] at single
    cases single
  obtain ⟨mid, quantifier, spells'⟩ := readQuantifier_of_spells spells single'
  obtain ⟨after, setters, spells''⟩ := readSetters_of_spells spells'
  refine ⟨after, ?_, spells''⟩
  exact bind_eq_ok.2 ⟨_, quantifier, bind_eq_ok.2 ⟨_, setters, rfl⟩⟩

end

/-! ## Elements -/

/-- What is known of a group that is open, apart from its place in the text. -/
def Group.frame (group : Group) : Frame := ⟨group.before, group.branches⟩

theorem Builds.single {frames : List Frame} {elements out : List Element} {ps : List Piece}
    (h : Builds frames elements ps out) : startsBounds ps = false := by
  cases h <;> rfl

theorem starts_of_readAtom {options : Options} {c : Char} {cs rest : List Char} {a : Atom}
    (h : readAtom options c cs = .ok (a, rest)) : c ≠ '@' ∧ ¬ isQuantifierMark c = true := by
  unfold readAtom at h
  simp only [beq_iff_eq] at h
  split at h
  · next same => subst same; decide
  · split at h
    · next same => subst same; decide
    · split at h
      · next same => subst same; decide
      · cases h

section

variable {options : Options} {cs : List Char} {groups : List Group} {elements out : List Element}

theorem builds_of_readElements (h : readElements options groups elements cs = .ok out) :
    ∃ ps, Spells options cs ps ∧ Builds (groups.map Group.frame) elements ps out := by
  fun_induction readElements options groups elements cs with
  | case1 elements cs blank =>
    cases h
    exact ⟨[], .nil blank, .done⟩
  | case4 groups elements cs c rest starts isOpening ih =>
    obtain rfl : c = '(' := by simpa using isOpening
    obtain ⟨ps, spells, builds⟩ := ih h
    exact ⟨.opening :: ps, .cons starts readPiece_opening spells, .opening builds⟩
  | case8 elements cs c rest starts _ isClosing group groups filled suffix after read element ih =>
    obtain rfl : c = ')' := by simpa using isClosing
    obtain ⟨ps, spells, builds⟩ := ih h
    obtain ⟨ps', spells', taken⟩ := spells_of_readSuffix read spells
    refine ⟨.closing :: ps', .cons starts readPiece_closing spells', .closing (by simpa using filled) ?_⟩
    rw [taken]
    exact builds
  | case11 elements cs c rest starts _ _ isBar group groups filled branches ih =>
    obtain rfl : c = '|' := by simpa using isBar
    obtain ⟨ps, spells, builds⟩ := ih h
    exact ⟨.bar :: ps, .cons starts readPiece_bar spells, .bar (by simpa using filled) builds⟩
  | case13 groups elements cs c rest starts notOpening notClosing notBar element after read ih =>
    obtain ⟨ps, spells, builds⟩ := ih h
    obtain ⟨⟨a, mid⟩, atom, read⟩ := bind_eq_ok.1 read
    obtain ⟨⟨s, _⟩, suffix, eq⟩ := bind_eq_ok.1 read
    cases eq
    obtain ⟨ps', spells', taken⟩ := spells_of_readSuffix suffix spells
    obtain ⟨other, noMark⟩ := starts_of_readAtom atom
    refine ⟨.atom a :: ps', .cons starts ?_ spells', .atom ?_⟩
    · rw [readPiece_atom (by simpa using notOpening) (by simpa using notClosing)
        (by simpa using notBar) other noMark, atom]
      rfl
    · rw [taken]
      exact builds
  | _ => cases h

theorem readElements_nil (blank : trimStart cs = []) :
    readElements options groups elements cs =
      match groups with
      | [] => .ok elements
      | group :: _ =>
        if elements.isEmpty then .error (.malformed .emptyBranch group.branchLeft)
        else .error (.malformed .unclosedGroup group.left) := by
  conv_lhs => unfold readElements
  split
  · rfl
  · next starts => cases blank.symm.trans starts

theorem readElements_cons {c : Char} {rest : List Char} (starts : trimStart cs = c :: rest) :
    readElements options groups elements cs =
      if c == '(' then
        readElements options (⟨elements, rest.length + 1, [], rest.length⟩ :: groups) [] rest
      else if c == ')' then
        match groups with
        | [] => .error (.malformed .unexpectedClose (rest.length + 1))
        | group :: groups =>
          if elements.isEmpty then .error (.malformed .emptyBranch group.branchLeft)
          else readSuffix options.engine rest >>= fun (suffix, after) =>
            readElements options groups
              (group.before ++ [ofBranches (group.branches ++ [elements]) suffix]) after
      else if c == '|' then
        match groups with
        | [] => .error (.malformed .barOutsideGroup (rest.length + 1))
        | group :: groups =>
          if elements.isEmpty then .error (.malformed .emptyBranch group.branchLeft)
          else
            readElements options (⟨group.before, group.left, group.branches ++ [elements],
              rest.length⟩ :: groups) [] rest
      else readElement options c rest >>= fun (element, after) =>
        readElements options groups (elements ++ [element]) after := by
  conv_lhs => unfold readElements
  split
  · next blank => cases blank.symm.trans starts
  · next starts' =>
    cases starts.symm.trans starts'
    split
    · rfl
    split
    · cases groups with
      | nil => rfl
      | cons group groups =>
        dsimp only
        split
        · rfl
        · split
          · next read => rw [read]; rfl
          · next read => rw [read]; rfl
    split
    · rfl
    · split
      · next read => rw [read]; rfl
      · next read => rw [read]; rfl

theorem readElements_opening {rest : List Char} (starts : trimStart cs = '(' :: rest) :
    readElements options groups elements cs
      = readElements options (⟨elements, rest.length + 1, [], rest.length⟩ :: groups) [] rest :=
  (readElements_cons starts).trans (if_pos rfl)

theorem readElements_closing {rest after : List Char} {group : Group} {suffix : Suffix}
    (starts : trimStart cs = ')' :: rest) (filled : elements ≠ [])
    (read : readSuffix options.engine rest = .ok (suffix, after)) :
    readElements options (group :: groups) elements cs
      = readElements options groups
          (group.before ++ [ofBranches (group.branches ++ [elements]) suffix]) after := by
  rw [readElements_cons starts, if_neg (by decide), if_pos (beq_self_eq_true _)]
  dsimp only
  rw [if_neg (by simpa using filled), read]
  rfl

theorem readElements_bar {rest : List Char} {group : Group}
    (starts : trimStart cs = '|' :: rest) (filled : elements ≠ []) :
    readElements options (group :: groups) elements cs
      = readElements options ({ group with
          branches := group.branches ++ [elements], branchLeft := rest.length } :: groups) []
          rest := by
  rw [readElements_cons starts, if_neg (by decide), if_neg (by decide),
    if_pos (beq_self_eq_true _)]
  exact if_neg (by simpa using filled)

theorem readElements_element {c : Char} {rest after : List Char} {element : Element}
    (starts : trimStart cs = c :: rest) (opening : c ≠ '(') (closing : c ≠ ')') (bar : c ≠ '|')
    (read : readElement options c rest = .ok (element, after)) :
    readElements options groups elements cs
      = readElements options groups (elements ++ [element]) after := by
  rw [readElements_cons starts, if_neg (by simpa using opening), if_neg (by simpa using closing),
    if_neg (by simpa using bar), read]
  rfl

theorem readElements_of_builds {ps : List Piece} {frames : List Frame}
    (builds : Builds frames elements ps out) (same : groups.map Group.frame = frames)
    (spells : Spells options cs ps) : readElements options groups elements cs = .ok out := by
  induction builds generalizing groups cs with
  | done =>
    obtain rfl := List.map_eq_nil_iff.1 same
    cases spells with
    | nil blank => exact readElements_nil blank
  | opening inner ih =>
    obtain ⟨c, rest, _, starts, reads, others⟩ := spells_cons.1 spells
    have kind : c = '(' := readPiece_kind reads
    subst kind
    cases reads
    rw [readElements_opening starts]
    exact ih (by rw [List.map_cons, same]; rfl) others
  | closing filled outer ih =>
    obtain ⟨c, rest, _, starts, reads, others⟩ := spells_cons.1 spells
    have kind : c = ')' := readPiece_kind reads
    subst kind
    cases reads
    obtain ⟨group, groups, rfl, rfl, same'⟩ := List.map_eq_cons_iff.1 same
    obtain ⟨after, suffix, others⟩ := readSuffix_of_spells others outer.single
    rw [readElements_closing starts filled suffix]
    exact ih same' others
  | bar filled next ih =>
    obtain ⟨c, rest, _, starts, reads, others⟩ := spells_cons.1 spells
    have kind : c = '|' := readPiece_kind reads
    subst kind
    cases reads
    obtain ⟨group, groups, rfl, rfl, rfl⟩ := List.map_eq_cons_iff.1 same
    rw [readElements_bar starts filled]
    exact ih rfl others
  | atom next ih =>
    obtain ⟨c, rest, _, starts, reads, others⟩ := spells_cons.1 spells
    obtain ⟨opening, closing, bar, setter, mark⟩ := readPiece_kind reads
    rw [readPiece_atom opening closing bar setter mark] at reads
    obtain ⟨_, atom, eq⟩ := map_eq_ok.1 reads
    cases eq
    obtain ⟨after, suffix, others⟩ := readSuffix_of_spells others next.single
    rw [readElements_element starts opening closing bar
      (bind_eq_ok.2 ⟨_, atom, bind_eq_ok.2 ⟨_, suffix, rfl⟩⟩)]
    exact ih same others

/-- What a text reads as is told by its pieces and what they build. -/
theorem readElements_eq_ok :
    readElements options groups elements cs = .ok out
      ↔ ∃ ps, Spells options cs ps ∧ Builds (groups.map Group.frame) elements ps out :=
  ⟨builds_of_readElements, fun ⟨_, spells, builds⟩ => readElements_of_builds builds rfl spells⟩

/-- What a text compiles to is told by its pieces and what they build. -/
theorem compile_eq_ok {source : String} {p : Pattern} :
    compile options source = .ok p
      ↔ p.source = source ∧ p.elements ≠ []
        ∧ ∃ ps, Spells options source.toList ps ∧ Builds [] [] ps p.elements := by
  rw [← List.map_nil (f := Group.frame), ← readElements_eq_ok, compile]
  split
  · next read => simp [read]
  · next es nonempty read =>
    rw [read]
    constructor
    · intro h
      cases h
      exact ⟨rfl, nonempty, rfl⟩
    · rintro ⟨rfl, -, same⟩
      cases same
      rfl
  · next read => simp [read]
  · next read => simp [read]

end

end SpanSearch.Pattern
