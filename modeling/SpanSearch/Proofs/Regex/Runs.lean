import SpanSearch.Proofs.Regex.Groups

/-! # Runs of the parser

The parser goes through a text step by step, and each step depends on the innermost open groups alone.
So inside of one more group it takes the same steps, until a parenthesis closes a group that it did
not open.
-/

namespace SpanSearch.Regex

open Unicode

/-- What the parser does with a character and what is read after it. -/
def step (p : Progress) (c : Char) (rest : List Char) : Option (Progress × List Char) :=
  match c with
  | '(' => openGroup p rest
  | ')' => p.closed.map fun p => (p, rest)
  | '|' => some (p.barred, rest)
  | '[' => (readClass p.options rest).map fun found =>
      (p.add (.chars found.1.1) found.1.2, found.2)
  | '?' => (p.repeated 0 (some 1)).map fun p => (p, skipLazy rest)
  | '*' => (p.repeated 0 none).map fun p => (p, skipLazy rest)
  | '+' => (p.repeated 1 none).map fun p => (p, skipLazy rest)
  | '{' => (readCounts p.options.spaced rest).bind fun found =>
      (p.repeated found.1.1 found.1.2).map fun p => (p, found.2)
  | '.' => (anyChar? p.options).map fun set => (p.add (.chars set) 0, rest)
  | '^' =>
    let look := if p.options.manyLines then .lineStart p.options.returns else .start
    some (p.add (.look look) 0, rest)
  | '$' =>
    let look := if p.options.manyLines then .lineStop p.options.returns else .stop
    some (p.add (.look look) 0, rest)
  | '\\' => (readEscape p.options rest).bind fun found =>
      (found.1.regex? p.options).map fun regex => (p.add regex 0, found.2)
  | c => some (p.add (.chars (charSet p.options c)) 0, rest)

/-- Whether the parser gets through the text and makes a part of it. -/
inductive Runs : Progress → List Char → Part → Prop
  | done {p : Progress} {cs : List Char} (blank : skip p.options.spaced cs = [])
      (closed : p.groups = []) : Runs p cs p.part
  | next {p q : Progress} {cs rest rest' : List Char} {c : Char} {part : Part}
      (eq : skip p.options.spaced cs = c :: rest) (read : step p c rest = some (q, rest'))
      (others : Runs q rest' part) : Runs p cs part

variable {cs cs' rest rest' : List Char} {c : Char} {fuel : Nat} {p q : Progress} {part : Part}
  {groups : List OpenGroup}

/-! ## Steps -/

theorem parseFrom_nil (blank : skip p.options.spaced cs = []) :
    parseFrom (fuel + 1) p cs = if p.groups.isEmpty then some p.part else none := by
  rw [parseFrom, blank]

theorem parseFrom_cons (eq : skip p.options.spaced cs = c :: rest) :
    parseFrom (fuel + 1) p cs = (step p c rest).bind fun found => parseFrom fuel found.1 found.2 := by
  rw [parseFrom, eq]
  symm
  dsimp only
  split
  · rfl
  · exact Option.bind_map
  · rfl
  · exact Option.bind_map
  · exact Option.bind_map
  · exact Option.bind_map
  · exact Option.bind_map
  · exact (Option.bind_assoc ..).trans (Option.bind_congr fun found _ => Option.bind_map)
  · exact Option.bind_map
  · rfl
  · rfl
  · exact (Option.bind_assoc ..).trans (Option.bind_congr fun found _ => Option.bind_map)
  · have plain : step p c rest = some (p.add (.chars (charSet p.options c)) 0, rest) := by
      unfold step
      split
      all_goals first | rfl | exact absurd rfl ‹_›
    rw [plain]
    rfl

theorem step_suffix (h : step p c rest = some (q, rest')) : rest' <:+ rest := by
  unfold step at h
  split at h
  · exact openGroup_suffix h
  · obtain ⟨q, -, ⟨⟩⟩ := Option.map_eq_some_iff.1 h
    exact List.suffix_rfl
  · cases h
    exact List.suffix_rfl
  · obtain ⟨found, read, ⟨⟩⟩ := Option.map_eq_some_iff.1 h
    exact readClass_suffix read
  · obtain ⟨q, -, ⟨⟩⟩ := Option.map_eq_some_iff.1 h
    exact skipLazy_suffix rest
  · obtain ⟨q, -, ⟨⟩⟩ := Option.map_eq_some_iff.1 h
    exact skipLazy_suffix rest
  · obtain ⟨q, -, ⟨⟩⟩ := Option.map_eq_some_iff.1 h
    exact skipLazy_suffix rest
  · obtain ⟨found, read, h⟩ := Option.bind_eq_some_iff.1 h
    obtain ⟨q, -, ⟨⟩⟩ := Option.map_eq_some_iff.1 h
    exact readCounts_suffix read
  · obtain ⟨set, -, ⟨⟩⟩ := Option.map_eq_some_iff.1 h
    exact List.suffix_rfl
  · cases h
    exact List.suffix_rfl
  · cases h
    exact List.suffix_rfl
  · obtain ⟨found, read, h⟩ := Option.bind_eq_some_iff.1 h
    obtain ⟨regex, -, ⟨⟩⟩ := Option.map_eq_some_iff.1 h
    exact (readEscape_suffix read).trans (List.tail_suffix _)
  · cases h
    exact List.suffix_rfl

theorem Runs.done_iff (blank : skip p.options.spaced cs = []) :
    Runs p cs part ↔ p.groups = [] ∧ part = p.part := by
  constructor
  · rintro (⟨-, closed⟩ | ⟨eq, -, -⟩)
    · exact ⟨closed, rfl⟩
    · rw [blank] at eq
      cases eq
  · rintro ⟨closed, rfl⟩
    exact .done blank closed

theorem Runs.next_iff (eq : skip p.options.spaced cs = c :: rest) :
    Runs p cs part ↔ ∃ q rest', step p c rest = some (q, rest') ∧ Runs q rest' part := by
  constructor
  · rintro (⟨blank, -⟩ | ⟨eq', read, others⟩)
    · rw [blank] at eq
      cases eq
    · rw [eq] at eq'
      cases eq'
      exact ⟨_, _, read, others⟩
  · rintro ⟨q, rest', read, others⟩
    exact .next eq read others

/-- Where a step is known, the run goes on from there. -/
theorem Runs.iff_of_step (eq : skip p.options.spaced cs = c :: rest)
    (read : step p c rest = some (q, rest')) : Runs p cs part ↔ Runs q rest' part := by
  rw [Runs.next_iff eq, read]
  constructor
  · rintro ⟨_, _, ⟨⟩, others⟩
    exact others
  · exact fun others => ⟨q, rest', rfl, others⟩

/-- The parser gives the part that a run makes. -/
theorem parseFrom_eq_some_iff (enough : cs.length < fuel) :
    parseFrom fuel p cs = some part ↔ Runs p cs part := by
  induction fuel generalizing p cs with
  | zero => cases enough
  | succ fuel ih =>
    have le := (skip_suffix p.options.spaced cs).length_le
    cases eq : skip p.options.spaced cs with
    | nil =>
      rw [parseFrom_nil eq, Runs.done_iff eq, Option.ite_none_right_eq_some, List.isEmpty_iff,
        Option.some.injEq, eq_comm (a := part)]
    | cons c rest =>
      rw [eq, List.length_cons] at le
      rw [parseFrom_cons eq, Runs.next_iff eq, Option.bind_eq_some_iff]
      constructor
      · rintro ⟨⟨q, rest'⟩, read, parsed⟩
        have := (step_suffix read).length_le
        exact ⟨q, rest', read, (ih (by omega)).1 parsed⟩
      · rintro ⟨q, rest', read, others⟩
        have := (step_suffix read).length_le
        exact ⟨(q, rest'), read, (ih (show rest'.length < fuel by omega)).2 others⟩

/-! ## Open groups -/

/-- The progress inside of more groups, of which the first is the innermost. -/
def Progress.under (p : Progress) (groups : List OpenGroup) : Progress :=
  { p with groups := p.groups ++ groups }

theorem length_groups_under :
    (p.under groups).groups.length = p.groups.length + groups.length :=
  List.length_append

/-- What is read inside of more groups. -/
abbrev inside (groups : List OpenGroup) (found : Progress × List Char) : Progress × List Char :=
  (found.1.under groups, found.2)

theorem namedGroup_under (groups : List OpenGroup) (cs : List Char) :
    namedGroup (p.under groups) cs = (namedGroup p cs).map (inside groups) := by
  unfold namedGroup
  cases readGroupName cs with
  | none => rfl
  | some found =>
    change (if p.names.contains found.1 then _ else _) = Option.map _ (if _ then _ else _)
    split <;> rfl

theorem afterOptions_under (groups : List OpenGroup) (options : RegexOptions)
    (seen cs : List Char) :
    afterOptions (p.under groups) options seen cs
      = (afterOptions p options seen cs).map (inside groups) := by
  unfold afterOptions
  split
  · split <;> rfl
  · rfl
  · rfl

theorem optionGroup_under (groups : List OpenGroup) (cs : List Char) :
    optionGroup (p.under groups) cs = (optionGroup p cs).map (inside groups) := by
  unfold optionGroup
  change (readOptions p.options false [] cs).bind _ = _
  cases readOptions p.options false [] cs with
  | none => rfl
  | some found => exact afterOptions_under groups found.1 found.2.1 found.2.2

theorem openGroup_under (groups : List OpenGroup) (cs : List Char) :
    openGroup (p.under groups) cs = (openGroup p cs).map (inside groups) := by
  unfold openGroup
  simp only [show (p.under groups).options = p.options from rfl]
  split
  · rfl
  · rfl
  · rfl
  · rfl
  · exact namedGroup_under groups _
  · exact namedGroup_under groups _
  · exact optionGroup_under groups _
  · rfl

theorem repeated_under (groups : List OpenGroup) (min : Nat) (max : Option Nat) :
    (p.under groups).repeated min max = (p.repeated min max).map (·.under groups) := by
  obtain ⟨options, entries, branches, inner, names⟩ := p
  rcases entries with _ | ⟨_ | last, entries⟩ <;> rfl

theorem closed_under (groups : List OpenGroup) (own : p.groups ≠ []) :
    (p.under groups).closed = p.closed.map (·.under groups) := by
  obtain ⟨options, entries, branches, inner, names⟩ := p
  cases inner with
  | nil => exact absurd rfl own
  | cons group inner => rfl

/-- A step that closes no other group is the same inside of more groups. -/
theorem step_under (groups : List OpenGroup) (own : c = ')' → p.groups ≠ []) (rest : List Char) :
    step (p.under groups) c rest = (step p c rest).map (inside groups) := by
  unfold step
  split
  · exact openGroup_under groups rest
  · rw [closed_under groups (own rfl)]
    cases p.closed <;> rfl
  · rfl
  · change (readClass p.options rest).map _ = _
    cases readClass p.options rest <;> rfl
  · rw [repeated_under]
    cases p.repeated 0 (some 1) <;> rfl
  · rw [repeated_under]
    cases p.repeated 0 none <;> rfl
  · rw [repeated_under]
    cases p.repeated 1 none <;> rfl
  · change (readCounts p.options.spaced rest).bind _ = _
    cases readCounts p.options.spaced rest with
    | none => rfl
    | some found =>
      simp only [Option.bind_some, repeated_under]
      cases p.repeated found.1.1 found.1.2 <;> rfl
  · change (anyChar? p.options).map _ = _
    cases anyChar? p.options <;> rfl
  · rfl
  · rfl
  · change (readEscape p.options rest).bind _ = _
    cases readEscape p.options rest with
    | none => rfl
    | some found =>
      change (found.1.regex? p.options).map _ = Option.map _ ((found.1.regex? p.options).map _)
      cases found.1.regex? p.options <;> rfl
  · rfl

theorem repeated_groups {min : Nat} {max : Option Nat} (h : p.repeated min max = some q) :
    q.groups = p.groups := by
  unfold Progress.repeated at h
  split at h
  · cases h
    rfl
  · cases h

theorem openGroup_groups (h : openGroup p cs = some (q, rest)) :
    p.groups.length ≤ q.groups.length := by
  have named {cs : List Char} (h : namedGroup p cs = some (q, rest)) :
      p.groups.length ≤ q.groups.length := by
    obtain ⟨found, -, h⟩ := Option.bind_eq_some_iff.1 h
    obtain ⟨-, ⟨⟩⟩ := Option.ite_none_left_eq_some.1 h
    exact Nat.le_succ _
  have optional {cs : List Char} (h : optionGroup p cs = some (q, rest)) :
      p.groups.length ≤ q.groups.length := by
    obtain ⟨found, -, h⟩ := Option.bind_eq_some_iff.1 h
    unfold afterOptions at h
    split at h
    · obtain ⟨-, ⟨⟩⟩ := Option.ite_none_left_eq_some.1 h
      exact Nat.le_refl _
    · cases h
      exact Nat.le_succ _
    · cases h
  unfold openGroup at h
  split at h
  · cases h
  · cases h
  · cases h
  · cases h
  · exact named h
  · exact named h
  · exact optional h
  · cases h
    exact Nat.le_succ _

/-- A step closes a group just if it goes over a closing parenthesis. -/
theorem step_groups (h : step p c rest = some (q, rest')) :
    p.groups.length ≤ q.groups.length + [c].count ')' := by
  have kept (same : q.groups = p.groups) (n : Nat) :
      p.groups.length ≤ q.groups.length + n := same ▸ Nat.le_add_right ..
  unfold step at h
  split at h
  · exact Nat.le_add_right_of_le (openGroup_groups h)
  · obtain ⟨q', closed, ⟨⟩⟩ := Option.map_eq_some_iff.1 h
    obtain ⟨options, entries, branches, inner, names⟩ := p
    cases inner with
    | nil => cases closed
    | cons group inner =>
      cases closed
      exact Nat.le_refl _
  · cases h
    exact kept rfl _
  · obtain ⟨found, read, ⟨⟩⟩ := Option.map_eq_some_iff.1 h
    exact kept rfl _
  · obtain ⟨q', repeated, ⟨⟩⟩ := Option.map_eq_some_iff.1 h
    exact kept (repeated_groups repeated) _
  · obtain ⟨q', repeated, ⟨⟩⟩ := Option.map_eq_some_iff.1 h
    exact kept (repeated_groups repeated) _
  · obtain ⟨q', repeated, ⟨⟩⟩ := Option.map_eq_some_iff.1 h
    exact kept (repeated_groups repeated) _
  · obtain ⟨found, read, h⟩ := Option.bind_eq_some_iff.1 h
    obtain ⟨q', repeated, ⟨⟩⟩ := Option.map_eq_some_iff.1 h
    exact kept (repeated_groups repeated) _
  · obtain ⟨set, -, ⟨⟩⟩ := Option.map_eq_some_iff.1 h
    exact kept rfl _
  · cases h
    exact kept rfl _
  · cases h
    exact kept rfl _
  · obtain ⟨found, read, h⟩ := Option.bind_eq_some_iff.1 h
    obtain ⟨regex, -, ⟨⟩⟩ := Option.map_eq_some_iff.1 h
    exact kept rfl _
  · cases h
    exact kept rfl _

/-- Each open group is closed by a parenthesis. -/
theorem Runs.groups_le (runs : Runs p cs part) : p.groups.length ≤ cs.count ')' := by
  induction runs with
  | done blank closed => simp [closed]
  | @next p q cs rest rest' c part eq read others ih =>
    have le := (step_suffix read).sublist.count_le ')'
    have skipped := (skip_suffix p.options.spaced cs).sublist.count_le ')'
    have closed := step_groups read
    rw [eq, ← List.singleton_append, List.count_append] at skipped
    omega

end SpanSearch.Regex
