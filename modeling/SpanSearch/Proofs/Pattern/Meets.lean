import SpanSearch.Proofs.Pattern.Words

/-! # The piece at which reading fails

If an expression in a pattern does not parse, this is met while the pieces of the pattern are read
one after another. So all that stands before is a row of words, whatever the groups are that are open
there, and there is just one piece at which reading fails.
-/

namespace SpanSearch.Pattern

open Unicode

/-- Whether reading the pieces of a text one after another meets with trouble. -/
inductive Meets (options : Options) : List Char → Trouble → Prop
  | here {cs rest : List Char} {c : Char} {t : Trouble} (starts : trimStart cs = c :: rest)
      (fails : readPiece options c rest = .error t) : Meets options cs t
  | later {cs rest after : List Char} {c : Char} {p : Piece} {t : Trouble}
      (starts : trimStart cs = c :: rest) (reads : readPiece options c rest = .ok (p, after))
      (others : Meets options after t) : Meets options cs t

section

variable {options : Options} {c : Char} {cs cs' rest after : List Char} {t t' : Trouble}
  {place : ExpressionPlace} {cause : Expression.Cause} {left : Nat}

theorem map_eq_error {x : Attempt α} {f : α → β} : x.map f = .error t ↔ x = .error t := by
  cases x with
  | error t => simp [Except.map]
  | ok a => simp [Except.map]

theorem bind_eq_error {x : Attempt α} {f : α → Attempt β} :
    x >>= f = .error t ↔ x = .error t ∨ ∃ a, x = .ok a ∧ f a = .error t := by
  cases x with
  | error t => simp [bind, Except.bind]
  | ok a => simp [bind, Except.bind]

/-- White space at the start of a text makes no difference. -/
theorem Meets.of_trimStart (h : Meets options cs t) (same : trimStart cs' = trimStart cs) :
    Meets options cs' t := by
  cases h with
  | here starts fails => exact .here (same.trans starts) fails
  | later starts reads others => exact .later (same.trans starts) reads others

/-- There is just one trouble that reading meets with. -/
theorem Meets.unique (h : Meets options cs t) (h' : Meets options cs t') : t = t' := by
  induction h with
  | here starts fails =>
    cases h' with
    | here starts' fails' =>
      cases starts.symm.trans starts'
      cases fails.symm.trans fails'
      rfl
    | later starts' reads' =>
      cases starts.symm.trans starts'
      cases fails.symm.trans reads'
  | later starts reads others ih =>
    cases h' with
    | here starts' fails' =>
      cases starts.symm.trans starts'
      cases reads.symm.trans fails'
    | later starts' reads' others' =>
      cases starts.symm.trans starts'
      cases reads.symm.trans reads'
      exact ih others'

/-! ## Suffixes -/

/-- What is met after setters is met after the pieces that these are. -/
theorem meets_after_setters {ss : List Setter} (reads : readSetters options.engine cs = .ok (ss, after))
    (others : Meets options after t) : Meets options cs t := by
  fun_induction readSetters options.engine cs generalizing ss with
  | case1 cs blank =>
    cases reads
    cases others with
    | here starts => cases starts
    | later starts => cases starts
  | case2 => cases reads
  | case3 cs c rest starts isAt s rest' read ih =>
    obtain rfl : c = '@' := by simpa using isAt
    obtain ⟨⟨ss', after'⟩, later, eq⟩ := map_eq_ok.1 reads
    cases eq
    refine .later (p := .setter s) starts ?_ (ih later)
    rw [readPiece_setter, read]
    rfl
  | case4 cs c rest starts notAt =>
    cases reads
    refine others.of_trimStart ?_
    rw [← starts, trimStart_idem]

theorem meets_of_readSetters (fails : readSetters options.engine cs = .error t) :
    Meets options cs t := by
  fun_induction readSetters options.engine cs with
  | case1 => cases fails
  | case2 cs c rest starts isAt t' read =>
    cases fails
    obtain rfl : c = '@' := by simpa using isAt
    refine .here starts ?_
    rw [readPiece_setter, read]
    rfl
  | case3 cs c rest starts isAt s rest' read ih =>
    obtain rfl : c = '@' := by simpa using isAt
    refine .later (p := .setter s) starts ?_ (ih (map_eq_error.1 fails))
    rw [readPiece_setter, read]
    rfl
  | case4 => cases fails

/-- What is met after a quantifier is met after the piece that it is. -/
theorem meets_after_quantifier {b : Bounds} (reads : readQuantifier cs = .ok (b, after))
    (others : Meets options after t) : Meets options cs t := by
  obtain ⟨-, ⟨-, rfl⟩ | ⟨c, rest, left, starts, mark, read, rfl⟩⟩ := readQuantifier_eq_ok.1 reads
  · exact others.of_trimStart (trimStart_idem cs).symm
  · refine .later (p := .bounds b) starts ?_ (others.of_trimStart (trimStart_idem left).symm)
    rw [readPiece_bounds mark, read]
    rfl

theorem readBounds_valid :
    readBounds c cs ≠ .error (.malformed (.invalidExpression place cause) left) := by
  unfold readBounds
  grind

theorem readQuantifier_valid :
    readQuantifier cs ≠ .error (.malformed (.invalidExpression place cause) left) := by
  intro fails
  unfold readQuantifier at fails
  split at fails
  · cases fails
  · split at fails
    · obtain fails | ⟨_, -, fails⟩ := bind_eq_error.1 fails
      · exact readBounds_valid fails
      · dsimp only at fails
        split at fails <;> cases fails
    · cases fails

theorem meets_after_suffix {s : Suffix} (reads : readSuffix options.engine cs = .ok (s, after))
    (others : Meets options after t) : Meets options cs t := by
  obtain ⟨⟨b, mid⟩, quantifier, reads⟩ := bind_eq_ok.1 reads
  obtain ⟨⟨ss, after'⟩, setters, eq⟩ := bind_eq_ok.1 reads
  cases eq
  exact meets_after_quantifier quantifier (meets_after_setters setters others)

theorem meets_of_readSuffix (fails : readSuffix options.engine cs
      = .error (.malformed (.invalidExpression place cause) left)) :
    Meets options cs (.malformed (.invalidExpression place cause) left) := by
  obtain fails | ⟨⟨b, mid⟩, quantifier, fails⟩ := bind_eq_error.1 fails
  · exact absurd fails readQuantifier_valid
  · obtain fails | ⟨⟨ss, after'⟩, setters, fails⟩ := bind_eq_error.1 fails
    · exact meets_after_quantifier quantifier (meets_of_readSetters fails)
    · cases fails

/-! ## Elements -/

theorem tag_of_readAtom (fails : readAtom options c cs
      = .error (.malformed (.invalidExpression place cause) left)) :
    c = '<' ∧ readTag options cs = .error (.malformed (.invalidExpression place cause) left) := by
  unfold readAtom at fails
  split at fails
  · unfold readLiteral at fails
    grind
  · split at fails
    · unfold readRegex at fails
      grind
    · split at fails
      · next isTag => exact ⟨by simpa using isTag, map_eq_error.1 fails⟩
      · cases fails

theorem meets_of_readElement (starts : trimStart cs = c :: rest) (opening : c ≠ '(')
    (closing : c ≠ ')') (bar : c ≠ '|') (fails : readElement options c rest
      = .error (.malformed (.invalidExpression place cause) left)) :
    Meets options cs (.malformed (.invalidExpression place cause) left) := by
  obtain fails | ⟨⟨a, mid⟩, atom, fails⟩ := bind_eq_error.1 fails
  · obtain ⟨rfl, -⟩ := tag_of_readAtom fails
    refine .here starts ?_
    rw [readPiece_atom (by decide) (by decide) (by decide) (by decide) (by decide), fails]
    rfl
  · obtain fails | ⟨⟨s, after⟩, -, fails⟩ := bind_eq_error.1 fails
    · obtain ⟨other, noMark⟩ := starts_of_readAtom atom
      refine .later (p := .atom a) starts ?_ (meets_of_readSuffix fails)
      rw [readPiece_atom opening closing bar other noMark, atom]
      rfl
    · cases fails

/-- What goes wrong with an expression is met in a row of pieces. -/
theorem meets_of_readElements {groups : List Group} {elements : List Element}
    (fails : readElements options groups elements cs
      = .error (.malformed (.invalidExpression place cause) left)) :
    Meets options cs (.malformed (.invalidExpression place cause) left) := by
  fun_induction readElements options groups elements cs with
  | case4 groups elements cs c rest starts isOpening ih =>
    obtain rfl : c = '(' := by simpa using isOpening
    exact .later starts readPiece_opening (ih fails)
  | case7 elements cs c rest starts _ isClosing group groups filled t read =>
    obtain rfl : c = ')' := by simpa using isClosing
    cases fails
    exact .later starts readPiece_closing (meets_of_readSuffix read)
  | case8 elements cs c rest starts _ isClosing group groups filled suffix after read element ih =>
    obtain rfl : c = ')' := by simpa using isClosing
    exact .later starts readPiece_closing (meets_after_suffix read (ih fails))
  | case11 elements cs c rest starts _ _ isBar group groups filled branches ih =>
    obtain rfl : c = '|' := by simpa using isBar
    exact .later starts readPiece_bar (ih fails)
  | case12 groups elements cs c rest starts notOpening notClosing notBar t read =>
    cases fails
    exact meets_of_readElement starts (by simpa using notOpening) (by simpa using notClosing)
      (by simpa using notBar) read
  | case13 groups elements cs c rest starts notOpening notClosing notBar element after read ih =>
    obtain ⟨⟨a, mid⟩, atom, read⟩ := bind_eq_ok.1 read
    obtain ⟨⟨s, _⟩, suffix, eq⟩ := bind_eq_ok.1 read
    cases eq
    obtain ⟨other, noMark⟩ := starts_of_readAtom atom
    refine .later (p := .atom a) starts ?_ (meets_after_suffix suffix (ih fails))
    rw [readPiece_atom (by simpa using notOpening) (by simpa using notClosing)
      (by simpa using notBar) other noMark, atom]
    rfl
  | _ => cases fails

/-! ## Rows -/

/-- What reading meets with it meets after a row of words. -/
theorem Meets.exists_row (h : Meets options cs t) :
    ∃ row ps c rest, cs = row ++ c :: rest ∧ Written options row ps
      ∧ readPiece options c rest = .error t := by
  induction h with
  | @here cs rest c t starts fails =>
    obtain ⟨b, blank, eq⟩ := exists_blank cs
    exact ⟨b, [], c, rest, by rw [eq, starts], .nil blank, fails⟩
  | @later cs rest after c p t starts reads others ih =>
    obtain ⟨b, blank, eq⟩ := exists_blank cs
    obtain ⟨w, whole, word⟩ := word_of_readPiece reads
    obtain ⟨row, ps, d, rest', rfl, written, fails⟩ := ih
    refine ⟨b ++ (w ++ row), p :: ps, d, rest', ?_, .cons blank word written, fails⟩
    rw [eq, starts, whole]
    simp only [List.append_assoc]

theorem Boundary.append (boundary : Boundary cs) (next : Boundary rest) : Boundary (cs ++ rest) := by
  cases cs with
  | nil => exact next
  | cons d cs => exact boundary

/-- Reading meets with the trouble that there is after a row of words. -/
theorem Written.meets {row : List Char} {ps : List Piece} (written : Written options row ps)
    (visible : isSpace c = false) (boundary : Boundary (c :: rest))
    (fails : readPiece options c rest = .error t) : Meets options (row ++ c :: rest) t := by
  induction written with
  | nil blank =>
    refine .here ?_ fails
    rw [blank.trimStart_append, trimStart_cons visible]
  | @cons b w cs p ps blank word others ih =>
    obtain ⟨d, after, whole, noSpace, reads⟩ := word.read (others.boundary.append boundary)
    refine .later ?_ reads ih
    rw [List.append_assoc, List.append_assoc, blank.trimStart_append, whole, trimStart_cons noSpace]

end

end SpanSearch.Pattern
