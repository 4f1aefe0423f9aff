import SpanSearch.Proofs.Pattern.WellFormed

/-! # The setters of what pieces build

A setter belongs to the element before it, so what pieces build has just their setters. Those of a
group stand before those inside of it there, and after them in the text.
-/

namespace SpanSearch.Pattern

/-- The setters of elements and their descendants. -/
def settersOf (es : List Element) : List Setter := (Element.walkList es).flatMap Element.setters

/-- The setters among pieces. -/
def settersOfPieces (ps : List Piece) : List Setter :=
  ps.filterMap fun p =>
    match p with
    | .setter s => some s
    | _ => none

section

variable {e : Element} {es es' : List Element} {s : Setter} {ps : List Piece}

@[simp] theorem settersOf_nil : settersOf [] = [] := rfl

theorem settersOf_append (es es' : List Element) :
    settersOf (es ++ es') = settersOf es ++ settersOf es' := by
  simp only [settersOf, walkList_append, List.flatMap_append]

theorem settersOf_cons (e : Element) (es : List Element) :
    settersOf (e :: es) = settersOf [e] ++ settersOf es :=
  settersOf_append [e] es

@[simp] theorem settersOf_atom (a : Atom) (suffix : Suffix) :
    settersOf [.atom a suffix] = suffix.setters := by
  simp [settersOf, Element.walkList, Element.walk, Element.setters, Element.suffix]

@[simp] theorem settersOf_sequence (children : List Element) (suffix : Suffix) :
    settersOf [.sequence children suffix] = suffix.setters ++ settersOf children := by
  simp [settersOf, Element.walkList, Element.walk, Element.setters, Element.suffix]

@[simp] theorem settersOf_choice (branches : List Element) (suffix : Suffix) :
    settersOf [.choice branches suffix] = suffix.setters ++ settersOf branches := by
  simp [settersOf, Element.walkList, Element.walk, Element.setters, Element.suffix]

@[simp] theorem settersOf_ofBranch (es : List Element) : settersOf [ofBranch es] = settersOf es := by
  unfold ofBranch
  split
  · rfl
  · rw [settersOf_sequence]
    rfl

theorem settersOf_map_ofBranch (branches : List (List Element)) :
    settersOf (branches.map ofBranch) = branches.flatMap settersOf := by
  induction branches with
  | nil => rfl
  | cons branch branches ih =>
    rw [List.map_cons, settersOf_cons, settersOf_ofBranch, ih, List.flatMap_cons]

@[simp] theorem settersOf_ofBranches (branches : List (List Element)) (suffix : Suffix) :
    settersOf [ofBranches branches suffix] = suffix.setters ++ branches.flatMap settersOf := by
  unfold ofBranches
  split
  · simp
  · rw [settersOf_choice, settersOf_map_ofBranch]

theorem mem_settersOfPieces : s ∈ settersOfPieces ps ↔ .setter s ∈ ps := by
  rw [settersOfPieces, List.mem_filterMap]
  constructor
  · rintro ⟨p, mem, eq⟩
    cases p <;> cases eq
    exact mem
  · intro mem
    exact ⟨_, mem, rfl⟩

theorem takeSetters_append (ps : List Piece) :
    (takeSetters ps).1 ++ settersOfPieces (takeSetters ps).2 = settersOfPieces ps := by
  induction ps using takeSetters.induct with
  | case1 s ps ih => exact congrArg (s :: ·) ih
  | case2 ps other => rw [takeSetters.eq_2 ps other, List.nil_append]

theorem takeSuffix_append (ps : List Piece) :
    (takeSuffix ps).1.setters ++ settersOfPieces (takeSuffix ps).2 = settersOfPieces ps := by
  rw [takeSuffix, takeSetters_append]
  cases ps with
  | nil => rfl
  | cons p ps => cases p <;> rfl

/-- The setters that stand in groups that are open, the innermost of which comes first. -/
def settersOfFrames : List Frame → List Setter
  | [] => []
  | frame :: frames =>
    settersOfFrames frames ++ (settersOf frame.before ++ frame.branches.flatMap settersOf)

/-- What pieces build has their setters. -/
theorem Builds.setters {frames : List Frame} {elements out : List Element}
    (h : Builds frames elements ps out) :
    (settersOf out).Perm (settersOfFrames frames ++ (settersOf elements ++ settersOfPieces ps)) := by
  induction h with
  | done => simp [settersOfFrames, settersOfPieces]
  | opening inner ih => simpa [settersOfFrames, settersOfPieces] using ih
  | @closing frame frames elements out ps filled outer ih =>
    -- the setters of the group move behind those inside of it
    have moved : ((takeSuffix ps).1.setters
          ++ (frame.branches.flatMap settersOf ++ settersOf elements)).Perm
        (frame.branches.flatMap settersOf ++ settersOf elements ++ (takeSuffix ps).1.setters) :=
      List.perm_append_comm
    have later : settersOfPieces (.closing :: ps)
        = (takeSuffix ps).1.setters ++ settersOfPieces (takeSuffix ps).2 :=
      (takeSuffix_append ps).symm
    refine ih.trans ?_
    rw [settersOf_append, settersOf_ofBranches, settersOfFrames, later]
    simpa [List.perm_append_left_iff] using
      moved.append_right (settersOfPieces (takeSuffix ps).2)
  | bar filled next ih => simpa [settersOfFrames, settersOfPieces] using ih
  | @atom frames elements out a ps next ih =>
    have later : settersOfPieces (.atom a :: ps)
        = (takeSuffix ps).1.setters ++ settersOfPieces (takeSuffix ps).2 :=
      (takeSuffix_append ps).symm
    rw [settersOf_append, settersOf_atom, List.append_assoc] at ih
    rwa [later]

end

end SpanSearch.Pattern
