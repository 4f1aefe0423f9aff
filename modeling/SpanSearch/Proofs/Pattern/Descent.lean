import SpanSearch.Proofs.Pattern.Suffixes
import SpanSearch.Proofs.Pattern.Tags

/-! # Patterns by positions

The parser of patterns as a recursive descent by positions: elements, the element that starts at a
place, and the branches of a group call one another. Its depth is bounded by the characters that are
left, no index and no range leaves the text, and it gives the pattern or the fault that the parser
with the open groups on a stack gives.
-/

namespace SpanSearch.Pattern.Cursor

open SpanSearch.Cursor Unicode

/-! ## The descent -/

/-- A branch as one element. -/
def branchAs (branch : List Element) : Run Fault Element :=
  if branch.length == 1 then item branch 0 else .ok (.sequence branch .plain)

/-- A group of branches. -/
def groupAs (branches : List (List Element)) (suffix : Suffix) : Run Fault Element :=
  match branches with
  | [branch] => .ok (.sequence branch suffix)
  | branches => do
    let elements ← branches.mapM branchAs
    .ok (.choice elements suffix)

section

variable (options : Options) (cs : List Char)

mutual

/-- Reads elements up to a closing parenthesis, a bar or the end. -/
def elementsAt : (depth : Nat) → (i : Nat) → Run Fault (List Element × Nat)
  | 0, _ => .error .exhausted
  | depth + 1, i =>
    let i := pass isSpace cs i
    match cs[i]? with
    | none => .ok ([], i)
    | some c =>
      if c == ')' || c == '|' then .ok ([], i)
      else do
        let (element, j) ← elementAt depth c i
        let (others, k) ← elementsAt depth j
        .ok (element :: others, k)

/-- Reads the element that starts with `c` at `i`. -/
def elementAt : (depth : Nat) → (c : Char) → (i : Nat) → Run Fault (Element × Nat)
  | 0, _, _ => .error .exhausted
  | depth + 1, c, i =>
    if c == '(' then do
      let (branches, j) ← branchesAt depth i (i + 1)
      let (suffix, k) ← suffixAt cs j
      let element ← groupAs branches suffix
      .ok (element, k)
    else do
      let (atom, j) ← atomAt options cs c i
      let (suffix, k) ← suffixAt cs j
      .ok (.atom atom suffix, k)

/-- Reads the branches of a group that opens at `opening`, and its closing parenthesis. -/
def branchesAt : (depth : Nat) → (opening : Nat) → (i : Nat) →
    Run Fault (List (List Element) × Nat)
  | 0, _, _ => .error .exhausted
  | depth + 1, opening, i => do
    let (branch, j) ← elementsAt depth i
    if branch.isEmpty then fail (.malformed .emptyBranch i)
    else if cs[j]? == some '|' then
      let (others, k) ← branchesAt depth opening (j + 1)
      .ok (branch :: others, k)
    else if cs[j]? == some ')' then .ok ([branch], j + 1)
    else fail (.malformed .unclosedGroup opening)

end

/-- Reads the elements that stand outside of any group, up to the end. -/
def topAt : Run Fault (List Element) := do
  let (elements, i) ← elementsAt options cs (3 * (cs.length + 1)) 0
  if cs[i]? == some ')' then fail (.malformed .unexpectedClose i)
  else if cs[i]? == some '|' then fail (.malformed .barOutsideGroup i)
  else .ok elements

end

/-- The pattern that a text writes, by positions. -/
def compile (tokenizer : Tokenizer) (knownTypes : Option (List String)) (source : String) :
    Run Fault Pattern := do
  let elements ← topAt ⟨tokenizer, Expression.standard, knownTypes⟩ source.toList
  if elements.isEmpty then fail (.malformed .empty 0) else .ok ⟨source, elements⟩

/-! ## Its agreement with the parser -/

theorem branchAs_eq (branch : List Element) : branchAs branch = .ok (ofBranch branch) := by
  unfold branchAs ofBranch
  split
  · next one =>
    obtain ⟨e, rfl⟩ := List.length_eq_one_iff.1 (eq_of_beq one)
    rfl
  · split
    · next others => simp at others
    · rfl

theorem groupAs_eq (branches : List (List Element)) (suffix : Suffix) :
    groupAs branches suffix = .ok (ofBranches branches suffix) := by
  have each (branches : List (List Element)) :
      branches.mapM branchAs = .ok (branches.map ofBranch) := by
    induction branches with
    | nil => rfl
    | cons branch others ih => rw [List.mapM_cons, branchAs_eq, ok_bind, ih]; rfl
  unfold groupAs
  split
  · rfl
  · next several =>
    rw [each, ok_bind]
    unfold ofBranches
    split
    · exact absurd rfl (several _)
    · rfl

section

variable {options : Options} {cs : List Char} {groups : List Group} {elements : List Element}

theorem readElements_trimStart {cs' : List Char} (same : trimStart cs' = trimStart cs) :
    readElements options groups elements cs' = readElements options groups elements cs := by
  cases starts : trimStart cs with
  | nil => rw [readElements_nil starts, readElements_nil (same.trans starts)]
  | cons c rest => rw [readElements_cons starts, readElements_cons (same.trans starts)]

/-- A place where elements end. -/
def Ends (cs : List Char) (i : Nat) : Prop :=
  cs[i]? = none ∨ cs[i]? = some ')' ∨ cs[i]? = some '|'

/-- A reading by positions leads the parser from `here` to `there`: whatever goes on in agreement
from there, at a place within the text that allows it, agrees as a whole from here. -/
def Leads {γ : Type} (cs : List Char) (allowed : Nat → Prop) (here : Attempt (List Element))
    (reading : Run Fault (γ × Nat)) (there : γ → Nat → Attempt (List Element)) : Prop :=
  ∀ ⦃β : Type⦄ ⦃S : List Element → β → Prop⦄ ⦃g : γ × Nat → Run Fault β⦄,
    (∀ v k, k ≤ cs.length → allowed k → Agrees (Located cs.length) S (there v k) (g (v, k))) →
    Agrees (Located cs.length) S here (reading >>= g)

/-- With the depth that is left, the descent leads the parser through what it reads. Each character
stands for three calls. -/
structure Steps (options : Options) (cs : List Char) (depth : Nat) : Prop where
  elements {groups : List Group} {before : List Element} {i : Nat} : i ≤ cs.length →
    3 * (cs.length - i) + 1 ≤ depth →
    Leads cs (fun k => i ≤ k ∧ Ends cs k) (readElements options groups before (cs.drop i))
      (elementsAt options cs depth i)
      fun more k => readElements options groups (before ++ more) (cs.drop k)
  element {groups : List Group} {before : List Element} {c : Char} {rest : List Char} {i : Nat} :
    cs[i]? = some c → trimStart rest = c :: cs.drop (i + 1) → c ≠ ')' → c ≠ '|' →
    3 * (cs.length - i) ≤ depth →
    Leads cs (fun k => i < k) (readElements options groups before rest)
      (elementAt options cs depth c i)
      fun element k => readElements options groups (before ++ [element]) (cs.drop k)
  branches {groups : List Group} {before : List Element} {done : List (List Element)}
    {left opening i : Nat} : i ≤ cs.length → opening + left = cs.length →
    3 * (cs.length - i) + 2 ≤ depth →
    Leads cs (fun k => i < k)
      (readElements options (⟨before, left, done, (cs.drop i).length⟩ :: groups) [] (cs.drop i))
      (branchesAt options cs depth opening i)
      fun others k => readSuffix options.engine (cs.drop k) >>= fun (suffix, after) =>
        readElements options groups (before ++ [ofBranches (done ++ others) suffix]) after

section

variable {before : List Element} {depth i : Nat}

theorem trimStart_drop_none (get : cs[i]? = none) : trimStart (cs.drop i) = [] := by
  rw [List.drop_eq_nil_of_le (List.getElem?_eq_none_iff.1 get)]
  rfl

theorem trimStart_drop_some {c : Char} (get : cs[i]? = some c) (visible : isSpace c = false) :
    trimStart (cs.drop i) = c :: cs.drop (i + 1) := by
  obtain ⟨lt, rfl⟩ := List.getElem?_eq_some_iff.1 get
  rw [List.drop_eq_getElem_cons lt, trimStart_cons visible]

theorem elements_step (steps : Steps options cs depth) (most : i ≤ cs.length)
    (enough : 3 * (cs.length - i) + 1 ≤ depth + 1) :
    Leads cs (fun k => i ≤ k ∧ Ends cs k) (readElements options groups before (cs.drop i))
      (elementsAt options cs (depth + 1) i)
      fun more k => readElements options groups (before ++ more) (cs.drop k) := by
  intro β S g next
  have skipped : i ≤ pass isSpace cs i := le_pass
  have bounded := pass_le (p := isSpace) most
  have trimmed : trimStart (cs.drop i) = cs.drop (pass isSpace cs i) := trimStart_drop
  rw [elementsAt]
  dsimp only
  generalize pass isSpace cs i = j at *
  -- Where the elements end, the parser has only skipped space.
  have ended (ends : Ends cs j) : Agrees (Located cs.length) S
      (readElements options groups before (cs.drop i)) (g ([], j)) := by
    have same : trimStart (cs.drop j) = trimStart (cs.drop i) := by
      rw [← trimmed, trimStart_idem]
    rw [← readElements_trimStart same]
    simpa using next [] j bounded ⟨skipped, ends⟩
  obtain ⟨get, -⟩ | ⟨c, get, cons, lt⟩ := peek_cases cs j
  · simp only [get]
    exact ended (.inl get)
  simp only [get]
  split
  · next stops =>
    rw [Bool.or_eq_true, beq_iff_eq, beq_iff_eq] at stops
    rcases stops with rfl | rfl
    · exact ended (.inr (.inl get))
    · exact ended (.inr (.inr get))
  · next goes =>
    rw [Bool.or_eq_true, beq_iff_eq, beq_iff_eq, not_or] at goes
    rw [bind_assoc]
    apply steps.element get (trimmed.trans cons) goes.1 goes.2 (by omega)
    intro element k most later
    rw [bind_assoc]
    apply steps.elements most (by omega)
    rintro more l most ⟨least, ends⟩
    dsimp only
    rw [List.append_assoc]
    exact next (element :: more) l most ⟨by omega, ends⟩

theorem branches_step (steps : Steps options cs depth) {done : List (List Element)}
    {left opening : Nat} (most : i ≤ cs.length) (whole : opening + left = cs.length)
    (enough : 3 * (cs.length - i) + 2 ≤ depth + 1) :
    Leads cs (fun k => i < k)
      (readElements options (⟨before, left, done, (cs.drop i).length⟩ :: groups) [] (cs.drop i))
      (branchesAt options cs (depth + 1) opening i)
      fun others k => readSuffix options.engine (cs.drop k) >>= fun (suffix, after) =>
        readElements options groups (before ++ [ofBranches (done ++ others) suffix]) after := by
  intro β S g next
  rw [branchesAt, bind_assoc]
  apply steps.elements most (by omega)
  rintro branch k most' ⟨least, ends⟩
  have start : i + (cs.drop i).length = cs.length := by
    rw [List.length_drop]
    omega
  dsimp only
  rw [List.nil_append]
  -- The branch ends with the text, with the group or at a bar.
  rcases ends with get | get | get
  · rw [readElements_nil (trimStart_drop_none get), get]
    dsimp only
    split
    · exact fail_located _ start
    · exact fail_located _ whole
  · obtain ⟨lt, -⟩ := List.getElem?_eq_some_iff.1 get
    rw [readElements_cons (trimStart_drop_some get (by decide)), get]
    simp only [Char.reduceBEq, Bool.false_eq_true, if_false, if_true, Option.some_beq_some]
    split
    · exact fail_located _ start
    · exact next [branch] (k + 1) lt (by omega)
  · obtain ⟨lt, -⟩ := List.getElem?_eq_some_iff.1 get
    rw [readElements_cons (trimStart_drop_some get (by decide)), get]
    simp only [Char.reduceBEq, Bool.false_eq_true, if_false, if_true, Option.some_beq_some]
    split
    · exact fail_located _ start
    · rw [bind_assoc]
      apply steps.branches lt whole (by omega)
      intro others l most later
      dsimp only
      rw [List.append_assoc]
      exact next (branch :: others) l most (by omega)

theorem element_step (engine : options.engine = Expression.standard)
    (steps : Steps options cs depth) {c : Char} {rest : List Char} (get : cs[i]? = some c)
    (starts : trimStart rest = c :: cs.drop (i + 1)) (closing : c ≠ ')') (bar : c ≠ '|')
    (enough : 3 * (cs.length - i) ≤ depth + 1) :
    Leads cs (fun k => i < k) (readElements options groups before rest)
      (elementAt options cs (depth + 1) c i)
      fun element k => readElements options groups (before ++ [element]) (cs.drop k) := by
  intro β S g next
  obtain ⟨lt, -⟩ := List.getElem?_eq_some_iff.1 get
  rw [readElements_cons starts, elementAt]
  split
  · rw [bind_assoc]
    apply steps.branches lt (left_drop lt rfl) (by omega)
    intro branches j most later
    dsimp only
    rw [bind_assoc, engine, List.nil_append]
    apply (suffixAt_agrees most).bind_reached
    intro suffix k least most
    dsimp only
    rw [groupAs_eq, ok_bind]
    exact next _ k most (by omega)
  · next opening =>
    simp only [beq_iff_eq] at opening
    simp only [beq_iff_eq, closing, bar, if_false, readElement]
    rw [bind_assoc, bind_assoc]
    apply (atomAt_agrees engine get).bind_reached
    intro atom j least most
    dsimp only
    rw [bind_assoc, bind_assoc, engine]
    apply (suffixAt_agrees most).bind_reached
    intro suffix k least' most
    exact next _ k most (by omega)

/-- The descent leads the parser at every depth, by induction on it. -/
theorem steps (engine : options.engine = Expression.standard) (depth : Nat) :
    Steps options cs depth := by
  induction depth with
  | zero =>
    exact {
      elements := fun _ enough => by omega
      element := fun get _ _ _ enough => by
        obtain ⟨lt, -⟩ := List.getElem?_eq_some_iff.1 get
        omega
      branches := fun _ _ enough => by omega }
  | succ depth ih =>
    exact {
      elements := elements_step ih
      element := element_step engine ih
      branches := branches_step ih }

theorem topAt_agrees (engine : options.engine = Expression.standard) :
    Agrees (Located cs.length) (fun es es' => es' = es) (readElements options [] [] cs)
      (topAt options cs) := by
  have enough : 3 * (cs.length - 0) + 1 ≤ 3 * (cs.length + 1) := by omega
  unfold topAt
  apply (steps engine _).elements (Nat.zero_le _) enough
  rintro es k most ⟨-, ends⟩
  dsimp only
  rw [List.nil_append]
  rcases ends with get | get | get
  · rw [readElements_nil (trimStart_drop_none get), get]
    exact .ok rfl
  · obtain ⟨lt, -⟩ := List.getElem?_eq_some_iff.1 get
    rw [readElements_cons (trimStart_drop_some get (by decide)), get]
    exact fail_located _ (left_drop lt rfl)
  · obtain ⟨lt, -⟩ := List.getElem?_eq_some_iff.1 get
    rw [readElements_cons (trimStart_drop_some get (by decide)), get]
    exact fail_located _ (left_drop lt rfl)

end

end

end SpanSearch.Pattern.Cursor

namespace SpanSearch.Pattern

open SpanSearch.Cursor

/-- Whatever the text is, the parser that goes by positions gives a pattern or a fault that lies
within the text: no index and no range leaves the text, and no recursion goes deeper than the text
is long. The parser gives the same. -/
theorem compile_within_range (tokenizer : Tokenizer) (knownTypes : Option (List String))
    (source : String) :
    (∃ p, Cursor.compile tokenizer knownTypes source = .ok p
        ∧ compile ⟨tokenizer, Expression.standard, knownTypes⟩ source = .ok p) ∨
      ∃ cause offset,
        Cursor.compile tokenizer knownTypes source = .error (.fault (.malformed cause offset))
          ∧ compile ⟨tokenizer, Expression.standard, knownTypes⟩ source
            = .error (.malformed cause offset)
          ∧ offset ≤ source.length := by
  have agrees := @Cursor.topAt_agrees ⟨tokenizer, Expression.standard, knownTypes⟩ source.toList rfl
  unfold compile Cursor.compile
  dsimp only
  generalize readElements _ _ _ _ = x at *
  generalize Cursor.topAt _ _ = y at *
  cases agrees with
  | fault located =>
    cases located with
    | @intro cause left offset whole =>
      have length : source.toList.length = source.length := rfl
      right
      refine ⟨cause, offset, rfl, ?_, by omega⟩
      dsimp only
      congr 2
      omega
  | @ok _ es same =>
    subst same
    cases es with
    | nil => exact .inr ⟨.empty, 0, rfl, rfl, Nat.zero_le _⟩
    | cons e es => exact .inl ⟨⟨source, e :: es⟩, rfl, rfl⟩

end SpanSearch.Pattern
