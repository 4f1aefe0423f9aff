import SpanSearch.Proofs.Pattern.Printed

/-! # Elements that are printed alike

A branch that is a plain sequence of one element is printed like that element. Where there are such
branches, what is read has fewer elements than what was printed, and where there are none, what is
read is what was printed. In both cases the atoms are the same.
-/

namespace SpanSearch.Pattern

/-- Whether an element is a plain sequence of one element. -/
def IsWrapped : Element → Prop
  | .sequence [_] s => s = .plain
  | _ => False

/-- Whether no branch of a choice is a plain sequence of one element, on any level. -/
def Unwrapped (es : List Element) : Prop :=
  ∀ e ∈ Element.walkList es, ∀ branches s, e = .choice branches s → ∀ b ∈ branches, ¬ IsWrapped b

section

variable {P : Piece → Prop} {e b : Element} {es es' children branches : List Element} {s : Suffix}

theorem isPlain_iff : (Element.sequence children s).isPlain = true ↔ s = .plain := by
  obtain ⟨b, ss⟩ := s
  simp [Element.isPlain, Element.bounds, Element.setters, Element.suffix, Suffix.plain]

theorem unwrapped_cons : Unwrapped (e :: es) ↔ Unwrapped [e] ∧ Unwrapped es := by
  simp [Unwrapped, Element.walkList, or_imp, forall_and]

theorem unwrapped_atom {a : Atom} : Unwrapped [.atom a s] := by
  simp [Unwrapped, Element.walkList, Element.walk]

theorem unwrapped_sequence : Unwrapped [.sequence children s] ↔ Unwrapped children := by
  simp [Unwrapped, Element.walkList, Element.walk]

theorem unwrapped_choice :
    Unwrapped [.choice branches s] ↔ (∀ b ∈ branches, ¬ IsWrapped b) ∧ Unwrapped branches := by
  simp [Unwrapped, Element.walkList, Element.walk]

theorem ofBranch_of_unwrapped (h : ¬ IsWrapped (.sequence es .plain)) :
    ofBranch es = .sequence es .plain := by
  unfold ofBranch
  split
  · exact absurd rfl h
  · rfl

mutual

/-- Elements without such branches are read as they were printed. -/
theorem collapse_eq : (e : Element) → Unwrapped [e] → collapse e = e
  | .atom a s, _ => by rw [collapse]
  | .sequence children s, h => by
    rw [collapse, collapseRow_eq children (unwrapped_sequence.1 h)]
  | .choice branches s, h => by
    obtain ⟨plain, inner⟩ := unwrapped_choice.1 h
    rw [collapse, collapseBranches_eq_self branches plain inner]

theorem collapseRow_eq : (es : List Element) → Unwrapped es → collapseRow es = es
  | [], _ => by rw [collapseRow]
  | e :: es, h => by
    obtain ⟨first, later⟩ := unwrapped_cons.1 h
    rw [collapseRow, collapse_eq e first, collapseRow_eq es later]

theorem collapseBranches_eq_self : (bs : List Element) → (∀ b ∈ bs, ¬ IsWrapped b) → Unwrapped bs →
    collapseBranches bs = bs
  | [], _, _ => by rw [collapseBranches]
  | b :: bs, plain, h => by
    obtain ⟨first, later⟩ := unwrapped_cons.1 h
    obtain ⟨plainFirst, plainLater⟩ := List.forall_mem_cons.1 plain
    rw [collapseBranches, collapseBranch_eq b plainFirst first,
      collapseBranches_eq_self bs plainLater later]

theorem collapseBranch_eq : (b : Element) → ¬ IsWrapped b → Unwrapped [b] →
    ofBranch (collapseBranch b) = b
  | .atom a s, _, h => by
    rw [collapseBranch, ofBranch]
    · exact collapse_eq (.atom a s) h
    · simp
  | .sequence children s, plain, h => by
    rw [collapseBranch, collapseRow_eq children (unwrapped_sequence.1 h)]
    split
    · next isPlain =>
      obtain rfl := isPlain_iff.1 isPlain
      exact ofBranch_of_unwrapped plain
    · rfl
  | .choice branches s, _, h => by
    rw [collapseBranch, ofBranch]
    · exact collapse_eq (.choice branches s) h
    · simp

end

/-! ## The number of elements -/

/-- The number of elements on all levels. -/
def total (es : List Element) : Nat := (Element.walkList es).length

@[simp] theorem total_nil : total [] = 0 := rfl

theorem total_cons (e : Element) (es : List Element) : total (e :: es) = total [e] + total es := by
  simp [total, Element.walkList]

@[simp] theorem total_atom {a : Atom} : total [.atom a s] = 1 := rfl

@[simp] theorem total_sequence : total [.sequence children s] = total children + 1 := by
  simp [total, Element.walkList, Element.walk]

@[simp] theorem total_choice : total [.choice branches s] = total branches + 1 := by
  simp [total, Element.walkList, Element.walk]

mutual

/-- Elements of the same structure are of the same number. -/
theorem total_of_same : (e e' : Element) → e.same e' = true → total [e] = total [e']
  | .atom a s, e', h => by
    cases e' with
    | atom => rfl
    | _ => cases h
  | .sequence children s, e', h => by
    cases e' with
    | sequence children' s' =>
      rw [Element.same, Bool.and_eq_true] at h
      rw [total_sequence, total_sequence, total_of_sameList children children' h.1]
    | _ => cases h
  | .choice branches s, e', h => by
    cases e' with
    | choice branches' s' =>
      rw [Element.same, Bool.and_eq_true] at h
      rw [total_choice, total_choice, total_of_sameList branches branches' h.1]
    | _ => cases h

theorem total_of_sameList : (es es' : List Element) → Element.sameList es es' = true →
    total es = total es'
  | [], es', h => by
    cases es' with
    | nil => rfl
    | cons => cases h
  | e :: es, es', h => by
    cases es' with
    | nil => cases h
    | cons e' es' =>
      rw [Element.sameList, Bool.and_eq_true] at h
      rw [total_cons e es, total_cons e' es', total_of_same e e' h.1, total_of_sameList es es' h.2]

end

theorem total_ofBranch_le (es : List Element) : total [ofBranch es] ≤ total es + 1 := by
  unfold ofBranch
  split
  · omega
  · rw [total_sequence]

mutual

/-- As many elements are read as were printed just if no branch is a plain sequence of one element. -/
theorem total_collapse : (e : Element) →
    total [collapse e] ≤ total [e] ∧ (total [collapse e] = total [e] → Unwrapped [e])
  | .atom a s => by
    rw [collapse]
    exact ⟨Nat.le_refl _, fun _ => unwrapped_atom⟩
  | .sequence children s => by
    obtain ⟨le, eq⟩ := total_collapseRow children
    rw [collapse, total_sequence, total_sequence, unwrapped_sequence]
    exact ⟨by omega, fun same => eq (by omega)⟩
  | .choice branches s => by
    obtain ⟨le, eq⟩ := total_collapseBranches branches
    rw [collapse, total_choice, total_choice, unwrapped_choice]
    exact ⟨by omega, fun same => eq (by omega)⟩

theorem total_collapseRow : (es : List Element) →
    total (collapseRow es) ≤ total es ∧ (total (collapseRow es) = total es → Unwrapped es)
  | [] => by
    rw [collapseRow]
    exact ⟨Nat.le_refl _, fun _ _ mem => nomatch mem⟩
  | e :: es => by
    obtain ⟨le, eq⟩ := total_collapse e
    obtain ⟨le', eq'⟩ := total_collapseRow es
    rw [collapseRow, total_cons (collapse e), total_cons e, unwrapped_cons]
    exact ⟨by omega, fun same => ⟨eq (by omega), eq' (by omega)⟩⟩

theorem total_collapseBranches : (bs : List Element) →
    total (collapseBranches bs) ≤ total bs
      ∧ (total (collapseBranches bs) = total bs → (∀ b ∈ bs, ¬ IsWrapped b) ∧ Unwrapped bs)
  | [] => by
    rw [collapseBranches]
    exact ⟨Nat.le_refl _, fun _ => ⟨by simp, fun _ mem => nomatch mem⟩⟩
  | b :: bs => by
    obtain ⟨le, eq⟩ := total_collapseBranch b
    obtain ⟨le', eq'⟩ := total_collapseBranches bs
    rw [collapseBranches, total_cons (ofBranch _), total_cons b, unwrapped_cons, List.forall_mem_cons]
    refine ⟨by omega, fun same => ?_⟩
    obtain ⟨plain, inner⟩ := eq (by omega)
    obtain ⟨plain', inner'⟩ := eq' (by omega)
    exact ⟨⟨plain, plain'⟩, inner, inner'⟩

theorem total_collapseBranch : (b : Element) →
    total [ofBranch (collapseBranch b)] ≤ total [b]
      ∧ (total [ofBranch (collapseBranch b)] = total [b] → ¬ IsWrapped b ∧ Unwrapped [b])
  | .atom a s => by
    rw [collapseBranch, ofBranch]
    · obtain ⟨le, eq⟩ := total_collapse (.atom a s)
      exact ⟨le, fun same => ⟨id, eq same⟩⟩
    · simp
  | .sequence children s => by
    obtain ⟨le, eq⟩ := total_collapseRow children
    rw [collapseBranch]
    split
    · have bound := total_ofBranch_le (collapseRow children)
      rw [total_sequence, unwrapped_sequence]
      refine ⟨by omega, fun same => ⟨?_, eq (by omega)⟩⟩
      intro wrapped
      -- of a branch that is wrapped the element around it gets lost
      obtain ⟨c, rfl⟩ : ∃ c, children = [c] := by
        unfold IsWrapped at wrapped
        split at wrapped
        · next eq => exact ⟨_, (Element.sequence.inj eq).1⟩
        · cases wrapped
      have lost : ofBranch (collapseRow [c]) = collapse c := by
        rw [collapseRow, collapseRow, ofBranch]
      obtain ⟨le, -⟩ := total_collapse c
      rw [lost] at same
      omega
    · next grouped =>
      rw [ofBranch, total_sequence, total_sequence, unwrapped_sequence]
      refine ⟨by omega, fun same => ⟨?_, eq (by omega)⟩⟩
      intro wrapped
      unfold IsWrapped at wrapped
      split at wrapped
      · next eq =>
        obtain ⟨-, rfl⟩ := Element.sequence.inj eq
        exact grouped (isPlain_iff.2 wrapped)
      · cases wrapped
  | .choice branches s => by
    rw [collapseBranch, ofBranch]
    · obtain ⟨le, eq⟩ := total_collapse (.choice branches s)
      exact ⟨le, fun same => ⟨id, eq same⟩⟩
    · simp

end

/-- If what is read has the structure of what was printed, no branch is a plain sequence of one
element. -/
theorem unwrapped_of_same (h : Element.sameList (collapseRow es) es = true) : Unwrapped es :=
  (total_collapseRow es).2 (total_of_sameList _ _ h)

end

/-! ## Atoms -/

/-- The atoms of elements and their descendants, in the order in which they are written. -/
def atomsOf (es : List Element) : List Atom :=
  (Element.walkList es).filterMap fun e =>
    match e with
    | .atom a _ => some a
    | _ => none

/-- The atoms among pieces. -/
def atomsOfPieces (ps : List Piece) : List Atom :=
  ps.filterMap fun p =>
    match p with
    | .atom a => some a
    | _ => none

section

variable {e : Element} {es es' : List Element} {s : Suffix} {ps : List Piece}

@[simp] theorem atomsOf_nil : atomsOf [] = [] := rfl

theorem atomsOf_append (es es' : List Element) : atomsOf (es ++ es') = atomsOf es ++ atomsOf es' := by
  simp only [atomsOf, walkList_append, List.filterMap_append]

theorem atomsOf_cons (e : Element) (es : List Element) :
    atomsOf (e :: es) = atomsOf [e] ++ atomsOf es :=
  atomsOf_append [e] es

@[simp] theorem atomsOf_atom (a : Atom) (s : Suffix) : atomsOf [.atom a s] = [a] := rfl

@[simp] theorem atomsOf_sequence (children : List Element) (s : Suffix) :
    atomsOf [.sequence children s] = atomsOf children := by
  simp [atomsOf, Element.walkList, Element.walk]

@[simp] theorem atomsOf_choice (branches : List Element) (s : Suffix) :
    atomsOf [.choice branches s] = atomsOf branches := by
  simp [atomsOf, Element.walkList, Element.walk]

theorem atomsOfPieces_append (ps ps' : List Piece) :
    atomsOfPieces (ps ++ ps') = atomsOfPieces ps ++ atomsOfPieces ps' :=
  List.filterMap_append

@[simp] theorem atomsOfPieces_suffix (s : Suffix) : atomsOfPieces (piecesOfSuffix s) = [] := by
  have setters : atomsOfPieces (s.setters.map .setter) = [] := by
    simp [atomsOfPieces]
  rw [piecesOfSuffix, atomsOfPieces_append, setters]
  split <;> rfl

theorem atoms_takeSetters (ps : List Piece) :
    atomsOfPieces (takeSetters ps).2 = atomsOfPieces ps := by
  induction ps using takeSetters.induct with
  | case1 s ps ih => exact ih
  | case2 ps other => rw [takeSetters.eq_2 ps other]

theorem atoms_takeSuffix (ps : List Piece) :
    atomsOfPieces (takeSuffix ps).2 = atomsOfPieces ps := by
  rw [takeSuffix, atoms_takeSetters]
  cases ps with
  | nil => rfl
  | cons p ps => cases p <;> rfl

@[simp] theorem atomsOf_ofBranch (es : List Element) : atomsOf [ofBranch es] = atomsOf es := by
  unfold ofBranch
  split
  · rfl
  · exact atomsOf_sequence ..

theorem atomsOf_map_ofBranch (branches : List (List Element)) :
    atomsOf (branches.map ofBranch) = branches.flatMap atomsOf := by
  induction branches with
  | nil => rfl
  | cons branch branches ih =>
    rw [List.map_cons, atomsOf_cons, atomsOf_ofBranch, ih, List.flatMap_cons]

theorem atomsOf_ofBranches (branches : List (List Element)) (s : Suffix) :
    atomsOf [ofBranches branches s] = branches.flatMap atomsOf := by
  unfold ofBranches
  split
  · simp
  · rw [atomsOf_choice, atomsOf_map_ofBranch]

/-- The atoms that stand in groups that are open, the innermost of which comes first. -/
def atomsOfFrames : List Frame → List Atom
  | [] => []
  | frame :: frames =>
    atomsOfFrames frames ++ (atomsOf frame.before ++ frame.branches.flatMap atomsOf)

/-- What pieces build has their atoms, in their order. -/
theorem Builds.atoms {frames : List Frame} {elements out : List Element}
    (h : Builds frames elements ps out) :
    atomsOf out = atomsOfFrames frames ++ (atomsOf elements ++ atomsOfPieces ps) := by
  induction h with
  | done => simp [atomsOfFrames, atomsOfPieces]
  | opening inner ih =>
    rw [ih]
    simp [atomsOfFrames, atomsOfPieces]
  | closing filled outer ih =>
    rw [ih, atomsOf_append, atomsOf_ofBranches, atoms_takeSuffix]
    simp [atomsOfFrames, atomsOfPieces]
  | bar filled next ih =>
    rw [ih]
    simp [atomsOfFrames, atomsOfPieces]
  | atom next ih =>
    rw [ih, atomsOf_append, atoms_takeSuffix]
    simp [atomsOfPieces]

@[simp] theorem atomsOfPieces_closing (s : Suffix) :
    atomsOfPieces (.closing :: piecesOfSuffix s) = [] :=
  atomsOfPieces_suffix s

mutual

/-- The pieces of elements have the atoms of these, in their order. -/
theorem atoms_piecesOf : (e : Element) → atomsOfPieces (piecesOf e) = atomsOf [e]
  | .atom a s => by
    rw [piecesOf, atomsOf_atom]
    exact congrArg (a :: ·) (atomsOfPieces_suffix s)
  | .sequence children s => by
    rw [piecesOf, atomsOf_sequence, ← atoms_piecesOfRow children]
    change atomsOfPieces (piecesOfRow children ++ _) = _
    rw [atomsOfPieces_append, atomsOfPieces_closing, List.append_nil]
  | .choice branches s => by
    rw [piecesOf, atomsOf_choice, ← atoms_piecesOfBranches branches]
    change atomsOfPieces (piecesOfBranches branches ++ _) = _
    rw [atomsOfPieces_append, atomsOfPieces_closing, List.append_nil]

theorem atoms_piecesOfRow : (es : List Element) → atomsOfPieces (piecesOfRow es) = atomsOf es
  | [] => by
    rw [piecesOfRow]
    rfl
  | e :: es => by
    rw [piecesOfRow, atomsOfPieces_append, atoms_piecesOf e, atoms_piecesOfRow es, ← atomsOf_cons]

theorem atoms_piecesOfBranches : (bs : List Element) →
    atomsOfPieces (piecesOfBranches bs) = atomsOf bs
  | [] => by
    rw [piecesOfBranches]
    rfl
  | [b] => by
    rw [piecesOfBranches, atoms_piecesOfBranch b]
  | b :: b' :: bs => by
    rw [piecesOfBranches, atomsOfPieces_append, atoms_piecesOfBranch b,
      atomsOf_cons b (b' :: bs)]
    · exact congrArg (atomsOf [b] ++ ·) (atoms_piecesOfBranches (b' :: bs))
    · simp

theorem atoms_piecesOfBranch : (b : Element) → atomsOfPieces (piecesOfBranch b) = atomsOf [b]
  | .atom a s => by
    rw [piecesOfBranch]
    · exact atoms_piecesOf (.atom a s)
    · simp
  | .sequence children s => by
    rw [piecesOfBranch, atomsOf_sequence, ← atoms_piecesOfRow children]
    split
    · rfl
    · change atomsOfPieces (piecesOfRow children ++ _) = _
      rw [atomsOfPieces_append, atomsOfPieces_closing, List.append_nil]
  | .choice branches s => by
    rw [piecesOfBranch]
    · exact atoms_piecesOf (.choice branches s)
    · simp

end

/-- Whether two rows of atoms match the same, atom by atom. -/
def SameAtoms (as as' : List Atom) : Prop := List.Forall₂ (fun a a' => a.same a' = true) as as'

mutual

/-- The atoms of elements of the same structure match the same. -/
theorem sameAtoms_of_same : (e e' : Element) → e.same e' = true →
    SameAtoms (atomsOf [e]) (atomsOf [e'])
  | .atom a s, e', h => by
    cases e' with
    | atom a' s' =>
      rw [Element.same, Bool.and_eq_true] at h
      exact .cons h.1 .nil
    | _ => cases h
  | .sequence children s, e', h => by
    cases e' with
    | sequence children' s' =>
      rw [Element.same, Bool.and_eq_true] at h
      rw [atomsOf_sequence, atomsOf_sequence]
      exact sameAtoms_of_sameList children children' h.1
    | _ => cases h
  | .choice branches s, e', h => by
    cases e' with
    | choice branches' s' =>
      rw [Element.same, Bool.and_eq_true] at h
      rw [atomsOf_choice, atomsOf_choice]
      exact sameAtoms_of_sameList branches branches' h.1
    | _ => cases h

theorem sameAtoms_of_sameList : (es es' : List Element) → Element.sameList es es' = true →
    SameAtoms (atomsOf es) (atomsOf es')
  | [], es', h => by
    cases es' with
    | nil => exact .nil
    | cons => cases h
  | e :: es, es', h => by
    cases es' with
    | nil => cases h
    | cons e' es' =>
      rw [Element.sameList, Bool.and_eq_true] at h
      rw [atomsOf_cons e es, atomsOf_cons e' es']
      exact List.rel_append (sameAtoms_of_same e e' h.1) (sameAtoms_of_sameList es es' h.2)

end

end

end SpanSearch.Pattern
