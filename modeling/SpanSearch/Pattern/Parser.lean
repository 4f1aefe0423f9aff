import SpanSearch.Pattern.Reader

/-! # Parsing patterns

The parser goes through the characters of a pattern once. It keeps the groups that are open, the
innermost first, and the elements that it has read in the innermost of them. A closing parenthesis
turns these into one element of the group around it.
-/

namespace SpanSearch

/-- Why a text does not compile to a pattern. -/
inductive Pattern.Fault where
  /-- The text is malformed at an offset in characters. -/
  | malformed (cause : PatternCause) (offset : Nat)
  /-- The engine for expressions refuses one. -/
  | refused (message : String)
  deriving DecidableEq

namespace Pattern

open Unicode

/-- Reads an element that is no group and starts with `c`. -/
def readElement (options : Options) (c : Char) (cs : List Char) :
    Attempt (Element × List Char) := do
  let (atom, rest) ← readAtom options c cs
  let (suffix, rest) ← readSuffix options.engine rest
  .ok (.atom atom suffix, rest)

theorem readElement_length {options : Options} {c : Char} {cs rest : List Char} {e : Element}
    (h : readElement options c cs = .ok (e, rest)) : rest.length ≤ cs.length := by
  unfold readElement at h
  cases ha : readAtom options c cs with
  | error t => simp [ha, bind, Except.bind] at h
  | ok a =>
    cases hs : readSuffix options.engine a.2 with
    | error t => simp [ha, hs, bind, Except.bind] at h
    | ok s =>
      simp only [ha, hs, bind, Except.bind, Except.ok.injEq, Prod.mk.injEq] at h
      have := readAtom_length ha
      have := readSuffix_length hs
      exact h.2 ▸ by omega

/-- A group that is open. Places are given by the number of characters that follow them. -/
structure Group where
  /-- What stands before the group on its level. -/
  before : List Element
  /-- The place of the opening parenthesis. -/
  left : Nat
  /-- The branches that are finished. -/
  branches : List (List Element)
  /-- The place where the last branch starts. -/
  branchLeft : Nat

/-- A branch as one element. -/
def ofBranch : List Element → Element
  | [e] => e
  | es => .sequence es .plain

/-- A group of branches: with one branch, its sequence, and with several, the choice of one. -/
def ofBranches (branches : List (List Element)) (suffix : Suffix) : Element :=
  match branches with
  | [branch] => .sequence branch suffix
  | branches => .choice (branches.map ofBranch) suffix

/-- Reads the rest of a pattern, where `elements` have been read in the innermost group. -/
def readElements (options : Options) (groups : List Group) (elements : List Element)
    (cs : List Char) : Attempt (List Element) :=
  match _trimmed : trimStart cs with
  | [] =>
    match groups with
    | [] => .ok elements
    | group :: _ =>
      if elements.isEmpty then .error (.malformed .emptyBranch group.branchLeft)
      else .error (.malformed .unclosedGroup group.left)
  | c :: rest =>
    if c == '(' then
      readElements options (⟨elements, rest.length + 1, [], rest.length⟩ :: groups) [] rest
    else if c == ')' then
      match groups with
      | [] => .error (.malformed .unexpectedClose (rest.length + 1))
      | group :: groups =>
        if elements.isEmpty then .error (.malformed .emptyBranch group.branchLeft)
        else
          match _read : readSuffix options.engine rest with
          | .error t => .error t
          | .ok (suffix, after) =>
            let element := ofBranches (group.branches ++ [elements]) suffix
            readElements options groups (group.before ++ [element]) after
    else if c == '|' then
      match groups with
      | [] => .error (.malformed .barOutsideGroup (rest.length + 1))
      | group :: groups =>
        if elements.isEmpty then .error (.malformed .emptyBranch group.branchLeft)
        else
          let branches := group.branches ++ [elements]
          readElements options
            ({ group with branches := branches, branchLeft := rest.length } :: groups) [] rest
    else
      match _read : readElement options c rest with
      | .error t => .error t
      | .ok (element, after) => readElements options groups (elements ++ [element]) after
termination_by cs.length
decreasing_by
  all_goals
    have shorter := length_trimStart cs
    simp only [_trimmed, List.length_cons] at shorter
  · omega
  · have := readSuffix_length _read
    omega
  · omega
  · have := readElement_length _read
    omega

/-- The pattern that a text writes. -/
def compile (options : Options) (source : String) : Except Fault Pattern :=
  let cs := source.toList
  match readElements options [] [] cs with
  | .ok [] => .error (.malformed .empty 0)
  | .ok elements => .ok ⟨source, elements⟩
  | .error (.malformed cause left) => .error (.malformed cause (cs.length - left))
  | .error (.refused message) => .error (.refused message)

end Pattern

end SpanSearch
