import SpanSearch.Proofs.Pattern.WellFormed
import SpanSearch.Proofs.Pattern.Words

/-! # What is printed

A pattern is printed as a row of pieces. These pieces build the elements that were printed, with one
exception: as a branch of several elements is printed without parentheses, a branch that is a plain
sequence of one element becomes that element.
-/

namespace SpanSearch.Pattern

open Unicode

/-! ## Pieces -/

/-- A piece as it is written. -/
def printPiece : Piece → List Char
  | .opening => ['(']
  | .closing => [')']
  | .bar => ['|']
  | .atom a => printAtom a
  | .bounds b => b.print.toList
  | .setter s => printSetter s

/-- The pieces of a suffix. -/
def piecesOfSuffix (s : Suffix) : List Piece :=
  (if s.bounds = .once then [] else [.bounds s.bounds]) ++ s.setters.map .setter

mutual

/-- The pieces of an element. -/
def piecesOf : Element → List Piece
  | .atom a s => .atom a :: piecesOfSuffix s
  | .sequence children s => .opening :: (piecesOfRow children ++ .closing :: piecesOfSuffix s)
  | .choice branches s => .opening :: (piecesOfBranches branches ++ .closing :: piecesOfSuffix s)

/-- The pieces of elements in a row. -/
def piecesOfRow : List Element → List Piece
  | [] => []
  | e :: rest => piecesOf e ++ piecesOfRow rest

/-- The pieces of branches, with bars between them. -/
def piecesOfBranches : List Element → List Piece
  | [] => []
  | [b] => piecesOfBranch b
  | b :: rest => piecesOfBranch b ++ .bar :: piecesOfBranches rest

/-- The pieces of a branch: those of the elements of a plain sequence, or else of the element. -/
def piecesOfBranch : Element → List Piece
  | .sequence children s =>
    if (Element.sequence children s).isPlain then piecesOfRow children
    else .opening :: (piecesOfRow children ++ .closing :: piecesOfSuffix s)
  | e => piecesOf e

end

mutual

/-- The element that is read when an element has been printed. -/
def collapse : Element → Element
  | .atom a s => .atom a s
  | .sequence children s => .sequence (collapseRow children) s
  | .choice branches s => .choice (collapseBranches branches) s

/-- The elements that are read when elements in a row have been printed. -/
def collapseRow : List Element → List Element
  | [] => []
  | e :: rest => collapse e :: collapseRow rest

/-- The branches that are read when branches have been printed. -/
def collapseBranches : List Element → List Element
  | [] => []
  | b :: rest => ofBranch (collapseBranch b) :: collapseBranches rest

/-- The elements that are read when a branch has been printed. -/
def collapseBranch : Element → List Element
  | .sequence children s =>
    if (Element.sequence children s).isPlain then collapseRow children
    else [.sequence (collapseRow children) s]
  | e => [collapse e]

end

/-! ## Texts -/

/-- Whether a text is that of pieces, with white space before them. -/
inductive Printed : List Char → List Piece → Prop
  | nil : Printed [] []
  | cons {b cs : List Char} {p : Piece} {ps : List Piece} (blank : Blank b)
      (others : Printed cs ps) : Printed (b ++ (printPiece p ++ cs)) (p :: ps)

section

variable {cs cs' b : List Char} {ps ps' : List Piece}

theorem printed_single (p : Piece) : Printed (printPiece p) [p] := by
  have row := Printed.cons (p := p) blank_nil .nil
  simpa using row

theorem Printed.append (h : Printed cs ps) (h' : Printed cs' ps') :
    Printed (cs ++ cs') (ps ++ ps') := by
  induction h with
  | nil => exact h'
  | cons blank others ih =>
    simp only [List.append_assoc, List.cons_append]
    exact .cons blank ih

theorem Printed.blank_append (h : Printed cs ps) (nonempty : ps ≠ []) (blank : Blank b) :
    Printed (b ++ cs) ps := by
  cases h with
  | nil => exact absurd rfl nonempty
  | cons blank' others =>
    rw [← List.append_assoc]
    exact .cons (List.forall_mem_append.2 ⟨blank, blank'⟩) others

theorem printed_setters (ss : List Setter) :
    Printed (ss.flatMap printSetter) (ss.map .setter) := by
  induction ss with
  | nil => exact .nil
  | cons s ss ih => exact (printed_single (.setter s)).append ih

theorem printed_suffix (s : Suffix) : Printed (printSuffix s) (piecesOfSuffix s) := by
  refine Printed.append ?_ (printed_setters s.setters)
  by_cases once : s.bounds = .once
  · simp only [once, if_true]
    exact .nil
  · simp only [once, if_false]
    exact printed_single (.bounds s.bounds)

theorem piecesOf_ne_nil (e : Element) : piecesOf e ≠ [] := by
  cases e <;> simp [piecesOf]

theorem piecesOfRow_ne_nil {es : List Element} (nonempty : es ≠ []) : piecesOfRow es ≠ [] := by
  cases es with
  | nil => exact absurd rfl nonempty
  | cons e es => simp [piecesOfRow, piecesOf_ne_nil e]

mutual

/-- What is printed for an element is the text of its pieces. -/
theorem printed_element : (e : Element) → Printed (printElement e) (piecesOf e)
  | .atom a s => by
    rw [printElement, piecesOf]
    exact (printed_single (.atom a)).append (printed_suffix s)
  | .sequence children s => by
    rw [printElement, piecesOf]
    exact (printed_single .opening).append
      ((printed_row children).append ((printed_single .closing).append (printed_suffix s)))
  | .choice branches s => by
    rw [printElement, piecesOf]
    exact (printed_single .opening).append
      ((printed_branches branches).append ((printed_single .closing).append (printed_suffix s)))

theorem printed_row : (es : List Element) → Printed (printElements es) (piecesOfRow es)
  | [] => by
    rw [printElements, piecesOfRow]
    exact .nil
  | [e] => by
    rw [printElements, piecesOfRow, piecesOfRow, List.append_nil]
    exact printed_element e
  | e :: e' :: rest => by
    rw [printElements, piecesOfRow]
    · refine (printed_element e).append ((printed_row (e' :: rest)).blank_append (b := [' ']) ?_ ?_)
      · exact piecesOfRow_ne_nil (List.cons_ne_nil e' rest)
      · simp [Blank, isSpace]
    · simp

theorem printed_branches : (bs : List Element) → Printed (printBranches bs) (piecesOfBranches bs)
  | [] => by
    rw [printBranches, piecesOfBranches]
    exact .nil
  | [b] => by
    rw [printBranches, piecesOfBranches]
    exact printed_branch b
  | b :: b' :: rest => by
    rw [printBranches, piecesOfBranches]
    · exact (printed_branch b).append
        ((printed_single .bar).append (printed_branches (b' :: rest)))
    · simp
    · simp

theorem printed_branch : (b : Element) → Printed (printBranch b) (piecesOfBranch b)
  | .atom a s => by
    rw [printBranch, piecesOfBranch]
    · exact printed_element (.atom a s)
    · simp
    · simp
  | .sequence children s => by
    rw [printBranch, piecesOfBranch]
    split
    · exact printed_row children
    · exact (printed_single .opening).append
        ((printed_row children).append ((printed_single .closing).append (printed_suffix s)))
  | .choice branches s => by
    rw [printBranch, piecesOfBranch]
    · exact printed_element (.choice branches s)
    · simp
    · simp

end

end

/-! ## What the pieces build -/

/-- Whether a row of pieces does not go on with a suffix. -/
def EndsSuffix (ps : List Piece) : Prop :=
  ∀ p ∈ ps.head?, (∀ b, p ≠ .bounds b) ∧ ∀ s, p ≠ .setter s

section

variable {P : Piece → Prop} {frames : List Frame} {before out : List Element} {ps : List Piece}

theorem takeSetters_pieces (ss : List Setter) (ends : EndsSuffix ps) :
    takeSetters (ss.map .setter ++ ps) = (ss, ps) := by
  induction ss with
  | nil =>
    cases ps with
    | nil => rfl
    | cons p ps =>
      cases p with
      | setter s => exact absurd rfl ((ends _ rfl).2 s)
      | _ => rfl
  | cons s ss ih => simp only [List.map_cons, List.cons_append, takeSetters, ih]

/-- The pieces of a suffix are taken for that suffix. -/
theorem takeSuffix_pieces (s : Suffix) (ends : EndsSuffix ps) :
    takeSuffix (piecesOfSuffix s ++ ps) = (s, ps) := by
  obtain ⟨b, ss⟩ := s
  by_cases once : b = .once
  · subst once
    have unbounded : takeBounds (ss.map .setter ++ ps) = (.once, ss.map .setter ++ ps) := by
      cases ss with
      | nil =>
        cases ps with
        | nil => rfl
        | cons p ps =>
          cases p with
          | bounds b => exact absurd rfl ((ends _ rfl).1 b)
          | _ => rfl
      | cons s ss => rfl
    simp only [piecesOfSuffix, if_true, List.nil_append, takeSuffix, unbounded,
      takeSetters_pieces ss ends]
  · simp only [piecesOfSuffix, once, if_false, List.cons_append, List.nil_append, takeSuffix,
      takeBounds, takeSetters_pieces ss ends]

theorem endsSuffix_closing : EndsSuffix (.closing :: ps) := by
  intro p first
  obtain rfl : Piece.closing = p := by simpa using first
  exact ⟨nofun, nofun⟩

theorem endsSuffix_bar : EndsSuffix (.bar :: ps) := by
  intro p first
  obtain rfl : Piece.bar = p := by simpa using first
  exact ⟨nofun, nofun⟩

theorem endsSuffix_pieces (e : Element) : EndsSuffix (piecesOf e ++ ps) := by
  intro p first
  cases e with
  | atom a s =>
    obtain rfl : Piece.atom a = p := by simpa [piecesOf] using first
    exact ⟨nofun, nofun⟩
  | _ =>
    obtain rfl : Piece.opening = p := by simpa [piecesOf] using first
    exact ⟨nofun, nofun⟩

theorem endsSuffix_row (es : List Element) (ends : EndsSuffix ps) :
    EndsSuffix (piecesOfRow es ++ ps) := by
  cases es with
  | nil =>
    rw [piecesOfRow]
    exact ends
  | cons e es =>
    rw [piecesOfRow, List.append_assoc]
    exact endsSuffix_pieces e

theorem collapseRow_ne_nil {es : List Element} (nonempty : es ≠ []) : collapseRow es ≠ [] := by
  cases es with
  | nil => exact absurd rfl nonempty
  | cons e es => simp [collapseRow]

theorem collapseBranch_ne_nil {b : Element} (made : MadeAll P [b]) : collapseBranch b ≠ [] := by
  cases b with
  | sequence children s =>
    have nonempty := (madeAll_sequence.1 made).1.1
    rw [collapseBranch]
    split
    · exact collapseRow_ne_nil nonempty
    · exact List.cons_ne_nil _ _
  | _ => simp [collapseBranch]

/-- The branches of a group, as the rows of elements that are read. -/
def rowsOfBranches (bs : List Element) : List (List Element) := bs.map collapseBranch

theorem collapseBranches_eq (bs : List Element) :
    collapseBranches bs = (rowsOfBranches bs).map ofBranch := by
  induction bs with
  | nil =>
    rw [collapseBranches]
    rfl
  | cons b bs ih =>
    rw [collapseBranches, ih]
    rfl

theorem ofBranches_rows {bs : List Element} (several : 2 ≤ bs.length) (s : Suffix) :
    ofBranches (rowsOfBranches bs) s = .choice (collapseBranches bs) s := by
  rw [collapseBranches_eq]
  match bs, several with
  | _ :: _ :: _, _ => rfl

mutual

/-- The pieces of an element build that element, after what was built before. -/
theorem builds_element : (e : Element) → MadeAll P [e] → ∀ {frames before ps out},
    EndsSuffix ps → Builds frames (before ++ [collapse e]) ps out →
      Builds frames before (piecesOf e ++ ps) out
  | .atom a s, made, frames, before, ps, out, ends, rest => by
    rw [piecesOf, List.cons_append]
    refine .atom ?_
    rw [takeSuffix_pieces s ends]
    rw [collapse] at rest
    exact rest
  | .sequence children s, made, frames, before, ps, out, ends, rest => by
    obtain ⟨⟨nonempty, -⟩, inner⟩ := madeAll_sequence.1 made
    rw [piecesOf, List.cons_append, List.append_assoc, List.cons_append]
    refine .opening (builds_row children inner endsSuffix_closing ?_)
    refine .closing (by simpa using collapseRow_ne_nil nonempty) ?_
    rw [takeSuffix_pieces s ends]
    rw [collapse] at rest
    exact rest
  | .choice branches s, made, frames, before, ps, out, ends, rest => by
    obtain ⟨⟨several, -⟩, inner⟩ := madeAll_choice.1 made
    rw [piecesOf, List.cons_append, List.append_assoc, List.cons_append]
    refine .opening (builds_branches branches inner (by rintro rfl; simp at several) ?_)
    rw [List.nil_append, takeSuffix_pieces s ends, ofBranches_rows several]
    rw [collapse] at rest
    exact rest

theorem builds_row : (es : List Element) → MadeAll P es → ∀ {frames before ps out},
    EndsSuffix ps → Builds frames (before ++ collapseRow es) ps out →
      Builds frames before (piecesOfRow es ++ ps) out
  | [], _, frames, before, ps, out, ends, rest => by
    simpa [collapseRow, piecesOfRow] using rest
  | e :: es, made, frames, before, ps, out, ends, rest => by
    obtain ⟨first, later⟩ := madeAll_cons.1 made
    rw [piecesOfRow, List.append_assoc]
    refine builds_element e first (endsSuffix_row es ends) (builds_row es later ends ?_)
    rw [List.append_assoc, List.singleton_append, ← collapseRow]
    exact rest

theorem builds_branches : (bs : List Element) → MadeAll P bs → ∀ {frame frames ps out},
    bs ≠ [] →
    Builds frames (frame.before ++ [ofBranches (frame.branches ++ rowsOfBranches bs)
      (takeSuffix ps).1]) (takeSuffix ps).2 out →
      Builds (frame :: frames) [] (piecesOfBranches bs ++ .closing :: ps) out
  | [], _, _, _, _, _, nonempty, _ => absurd rfl nonempty
  | [b], made, frame, frames, ps, out, _, rest => by
    rw [piecesOfBranches]
    refine builds_branch b made endsSuffix_closing ?_
    exact .closing (collapseBranch_ne_nil made) rest
  | b :: b' :: bs, made, frame, frames, ps, out, _, rest => by
    obtain ⟨first, later⟩ := madeAll_cons.1 made
    rw [piecesOfBranches, List.append_assoc]
    · refine builds_branch b first endsSuffix_bar (.bar (collapseBranch_ne_nil first) ?_)
      refine builds_branches (b' :: bs) later (List.cons_ne_nil _ _) ?_
      rw [List.append_assoc]
      exact rest
    · simp

theorem builds_branch : (b : Element) → MadeAll P [b] → ∀ {frames ps out},
    EndsSuffix ps → Builds frames (collapseBranch b) ps out →
      Builds frames [] (piecesOfBranch b ++ ps) out
  | .atom a s, made, frames, ps, out, ends, rest => by
    rw [piecesOfBranch]
    · rw [collapseBranch] at rest
      · exact builds_element (.atom a s) made ends rest
      · simp
    · simp
  | .sequence children s, made, frames, ps, out, ends, rest => by
    obtain ⟨⟨nonempty, -⟩, inner⟩ := madeAll_sequence.1 made
    rw [piecesOfBranch]
    rw [collapseBranch] at rest
    split at rest
    · next plain =>
      rw [if_pos plain]
      exact builds_row children inner ends rest
    · next grouped =>
      rw [if_neg grouped, List.cons_append, List.append_assoc, List.cons_append]
      refine .opening (builds_row children inner endsSuffix_closing ?_)
      refine .closing (by simpa using collapseRow_ne_nil nonempty) ?_
      rw [takeSuffix_pieces s ends]
      exact rest
  | .choice branches s, made, frames, ps, out, ends, rest => by
    rw [piecesOfBranch]
    · rw [collapseBranch] at rest
      · exact builds_element (.choice branches s) made ends rest
      · simp
    · simp

end

end

end SpanSearch.Pattern
