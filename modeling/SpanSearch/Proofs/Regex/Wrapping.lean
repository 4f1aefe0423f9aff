import SpanSearch.Pattern.Reader
import SpanSearch.Proofs.Regex.Meaning
import SpanSearch.Proofs.Regex.Runs

/-! # Expressions put into a group

A valid expression that is put into a group takes the parser to the closing parenthesis of the group,
unless it ends in a comment, which takes the parenthesis as well. An expression that is not valid on
its own may become so in a group in one way only: it closes the group itself.
-/

namespace SpanSearch.Regex

open Unicode

variable {cs cs' rest rest' : List Char} {c : Char} {p q : Progress} {part final : Part}
  {groups : List OpenGroup} {outer : OpenGroup}

/-! ## Steps -/

/-- Whether a step has lost the parenthesis, or leaves a brace that counts nothing before it. -/
def StepLost (q : Progress) (rest : List Char) : Prop := Short rest ∨ Braced q.options.spaced rest

theorem step_agrees (c : Char) (goesOn : GoesOn rest rest') :
    Agrees StepLost (step p c rest) (step p c rest') := by
  unfold step
  split
  · exact (openGroup_agrees goesOn).mono fun _ _ => .inl
  · exact .found _ id goesOn
  · exact .both goesOn
  · exact (readClass_agrees goesOn).map (fun found => p.add (.chars found.1) found.2)
      fun _ _ => .inl
  · exact .found _ id goesOn.skipLazy
  · exact .found _ id goesOn.skipLazy
  · exact .found _ id goesOn.skipLazy
  · refine (readCounts_agrees goesOn).bind ?_ fun _ _ _ _ gone => gone.elim
    intro counts rest rest' goesOn
    exact .found _ id goesOn
  · exact .found _ (fun set => p.add (.chars set) 0) goesOn
  · exact .both goesOn
  · exact .both goesOn
  · refine (readEscape_agrees goesOn).bind ?_ ?_
    · intro symbol rest rest' goesOn
      exact .found _ (fun regex => p.add regex 0) goesOn
    · intro symbol rest q last lost read
      obtain ⟨regex, -, ⟨⟩⟩ := Option.map_eq_some_iff.1 read
      exact lost.imp id And.right
  · exact .both goesOn

/-- A parenthesis that closes no group ends the parsing. -/
theorem step_closing_eq_none (outermost : p.groups = []) : step p ')' rest = none := by
  obtain ⟨options, entries, branches, inner, names⟩ := p
  cases outermost
  rfl

theorem groups_ne_nil_of_step (read : step p c rest = some (q, rest')) (closing : c = ')') :
    p.groups ≠ [] := by
  rintro outermost
  rw [closing, step_closing_eq_none outermost] at read
  cases read

/-- A step is taken in the same way where the text goes on, in a group and outside of it. -/
theorem step_goesOn (goesOn : GoesOn cs cs') (eq : skip p.options.spaced cs = c :: rest)
    (read : step p c rest = some (q, rest')) (outer : OpenGroup) :
    ∃ inner last, skip p.options.spaced cs' = c :: inner ∧ step p c inner = some (q, last)
      ∧ step (p.under [outer]) c inner = some (q.under [outer], last) ∧ GoesOn rest' last := by
  have skipped := goesOn.skip p.options.spaced
  rw [eq] at skipped
  obtain ⟨inner, eq', after⟩ := skipped.cons_left
  have agrees := step_agrees (p := p) c after
  rw [read] at agrees
  obtain ⟨last, read', goesOn⟩ := agrees.of_some
  refine ⟨inner, last, eq', read', ?_, goesOn⟩
  rw [step_under _ (groups_ne_nil_of_step read'), read', Option.map_some]

/-- Only what is left after blanks and comments is of account. -/
theorem Runs.congr_skip (eq : skip p.options.spaced cs = skip p.options.spaced cs') :
    Runs p cs part ↔ Runs p cs' part := by
  cases left : skip p.options.spaced cs' with
  | nil => rw [Runs.done_iff left, Runs.done_iff (eq.trans left)]
  | cons c rest => rw [Runs.next_iff left, Runs.next_iff (eq.trans left)]

/-! ## Valid expressions -/

/-- Whether in a group the parser gets to the ending with a part read. -/
def Reaches (outer : OpenGroup) (p : Progress) (cs : List Char) (part : Part) : Prop :=
  ∃ q : Progress, q.groups = [] ∧ q.part = part
    ∧ ∀ final, Runs (p.under [outer]) cs final ↔ Runs (q.under [outer]) ending final

/-- Inside of a group a run comes to the ending, or a comment takes this as well. -/
theorem Runs.reaches_or (runs : Runs p cs part) (goesOn : GoesOn cs cs') (outer : OpenGroup) :
    Reaches outer p cs' part ∧ (∀ final, ¬ Runs p cs' final)
      ∨ Runs p cs' part ∧ ∀ final, ¬ Runs (p.under [outer]) cs' final := by
  -- The run with the ending takes the same steps until the text itself comes to its end.
  induction runs generalizing cs' with
  | @done p cs blank closed =>
    have skipped := goesOn.skip p.options.spaced
    rw [blank] at skipped
    rcases skipped.nil_left with ends | swallowed
    · refine .inl ⟨⟨p, closed, rfl, fun final => ?_⟩, fun final => ?_⟩
      · exact Runs.congr_skip (ends.trans (skip_ending _).symm)
      · rw [Runs.next_iff ends, step_closing_eq_none closed]
        simp
    · refine .inr ⟨.done swallowed closed, fun final => ?_⟩
      rw [Runs.done_iff (p := p.under [outer]) swallowed]
      exact fun h => List.append_ne_nil_of_right_ne_nil _ (List.cons_ne_nil _ _) h.1
  | @next p q cs rest after c part eq read others ih =>
    obtain ⟨inner, last, eq', own, inside, goesOn⟩ := step_goesOn goesOn eq read outer
    have own (final : Part) : Runs p cs' final ↔ Runs q last final := Runs.iff_of_step eq' own
    have inside (final : Part) :
        Runs (p.under [outer]) cs' final ↔ Runs (q.under [outer]) last final :=
      Runs.iff_of_step eq' inside
    simp only [Reaches, own, inside]
    exact ih goesOn

/-! ## Expressions that close the group -/

/-- Whether the parser comes upon a parenthesis that closes the group around the expression, and gets
through what follows, up to the ending. -/
inductive BreaksOut (outer : OpenGroup) : Progress → List Char → Part → Prop
  | here {p q : Progress} {cs rest : List Char} {final : Part}
      (eq : skip p.options.spaced cs = ')' :: rest) (outermost : p.groups = [])
      (closed : (p.under [outer]).closed = some q) (others : Runs q (rest ++ ending) final) :
      BreaksOut outer p cs final
  | next {p q : Progress} {cs rest rest' : List Char} {c : Char} {final : Part}
      (eq : skip p.options.spaced cs = c :: rest) (read : step p c rest = some (q, rest'))
      (others : BreaksOut outer q rest' final) : BreaksOut outer p cs final

/-- What closes the group around it is not valid on its own. -/
theorem BreaksOut.not_runs (breaksOut : BreaksOut outer p cs final) : ¬ Runs p cs part := by
  induction breaksOut with
  | here eq outermost =>
    rw [Runs.next_iff eq, step_closing_eq_none outermost]
    simp
  | next eq read others ih => rwa [Runs.iff_of_step eq read]

theorem step_closing (closed : p.closed = some q) : step p ')' rest = some (q, rest) := by
  change Option.map _ p.closed = _
  rw [closed, Option.map_some]

theorem BreaksOut.runs (breaksOut : BreaksOut outer p cs final) (goesOn : GoesOn cs cs') :
    Runs (p.under [outer]) cs' final := by
  induction breaksOut generalizing cs' with
  | @here p q cs rest final eq outermost closed others =>
    have skipped := goesOn.skip p.options.spaced
    rw [eq] at skipped
    rcases skipped with eq' | ⟨⟨⟩, -⟩
    exact .next eq' (step_closing closed) others
  | @next p q cs rest after c final eq read others ih =>
    obtain ⟨inner, last, eq', -, inside, goesOn⟩ := step_goesOn goesOn eq read outer
    exact .next eq' inside (ih goesOn)

theorem Short.not_mem (short : Short rest') (goesOn : GoesOn cs cs') (suffix : rest' <:+ cs') :
    ')' ∉ rest' := by
  have within : rest' <:+ ending.tail := by
    rcases goesOn with rfl | ⟨-, rfl⟩
    · refine List.suffix_of_suffix_length_le suffix ?_ (Nat.le_of_lt_succ short)
      exact (List.tail_suffix ending).trans (List.suffix_append cs ending)
    · exact suffix.trans (List.nil_suffix)
  exact fun mem => absurd (within.subset mem) (by decide)

/-- Where the parenthesis is lost, no group is closed any more. -/
theorem StepLost.not_runs (lost : StepLost q rest') (goesOn : GoesOn rest cs')
    (suffix : rest' <:+ cs') : ¬ Runs (q.under [outer]) rest' final := by
  intro runs
  rcases lost with short | ⟨inner, rfl, ends⟩
  · have le := runs.groups_le
    rw [List.count_eq_zero.2 (short.not_mem goesOn suffix), length_groups_under,
      List.length_singleton] at le
    omega
  · have brace : skip (q.under [outer]).options.spaced ('{' :: inner) = '{' :: inner := by
      unfold skip
      split
      · rw [skipLayout_cons, if_neg (by decide), if_neg (by decide)]
      · rfl
    obtain ⟨q', rest'', read, -⟩ := (Runs.next_iff brace).1 runs
    obtain ⟨found, counts, -⟩ := Option.bind_eq_some_iff.1 read
    rw [show readCounts (q.under [outer]).options.spaced inner = none from readCounts_ending ends]
      at counts
    cases counts

/-- All groups of an expression are closed where the ending closes the group around it. -/
theorem outermost_of_runs (runs : Runs (p.under [outer]) cs final)
    (ends : skip p.options.spaced cs = ending) : p.groups = [] := by
  have whole : Runs (p.under [outer]) ending final :=
    (Runs.congr_skip (p := p.under [outer]) (ends.trans (skip_ending _).symm)).1 runs
  have le := whole.groups_le
  have one : ending.count ')' = 1 := rfl
  rw [length_groups_under, List.length_singleton] at le
  exact List.eq_nil_of_length_eq_zero (by omega)

/-- What gets through in a group is valid on its own, or closes the group itself. -/
theorem runs_or_breaksOut {p' : Progress} (runs : Runs p' cs' final) (under : p' = p.under [outer])
    (goesOn : GoesOn cs cs') : (∃ part, Runs p cs part) ∨ BreaksOut outer p cs final := by
  -- The run is that of the longer text in the group. What a step reads beyond the text itself is
  -- lost, and then the group around it stays open.
  induction runs generalizing p cs with
  | done blank closed =>
    rw [under] at closed
    exact absurd closed (List.append_ne_nil_of_right_ne_nil _ (List.cons_ne_nil _ _))
  | @next p' q' cs' inner after' c final eq' read' others ih =>
    subst under
    have skipped := goesOn.skip p.options.spaced
    change skip p.options.spaced cs' = c :: inner at eq'
    rw [eq'] at skipped
    cases eq : skip p.options.spaced cs with
    | nil =>
      rw [eq] at skipped
      rcases skipped.nil_left with ends | ⟨⟨⟩⟩
      exact .inl ⟨_, .done eq (outermost_of_runs (.next eq' read' others) (eq'.trans ends))⟩
    | cons d rest =>
      rw [eq] at skipped
      obtain ⟨_, ⟨⟩, goesOn⟩ := skipped.cons_left
      by_cases closes : c = ')' ∧ p.groups = []
      · obtain ⟨rfl, outermost⟩ := closes
        obtain ⟨q, closed, ⟨⟩⟩ := Option.map_eq_some_iff.1 read'
        rcases skipped with ⟨⟨⟩⟩ | ⟨⟨⟩, -⟩
        exact .inr (.here eq outermost closed others)
      rw [step_under _ fun closing outermost => closes ⟨closing, outermost⟩] at read'
      obtain ⟨⟨q, after⟩, read, ⟨⟩⟩ := Option.map_eq_some_iff.1 read'
      have agrees := step_agrees (p := p) c goesOn
      rw [read] at agrees
      rcases agrees.of_some_right with ⟨behind, own, goesOn⟩ | ⟨-, lost⟩
      · rcases ih rfl goesOn with ⟨part, runs⟩ | breaksOut
        · exact .inl ⟨part, .next eq own runs⟩
        · exact .inr (.next eq own breaksOut)
      · exact absurd others (lost.not_runs goesOn (step_suffix read))

/-! ## Whole expressions -/

/-- The parser before it reads anything. -/
def Progress.start : Progress := ⟨.initial, [], [], [], []⟩

/-- The group around a whole expression, before which there is the start of the text. -/
def OpenGroup.afterStart : OpenGroup := ⟨[some ⟨.look .start, 0⟩], [], .initial⟩

/-- A part in a group between the start and the end of the text. -/
def Part.anchored (part : Part) : Part := ⟨part.regex.anchored, part.depth + 2⟩

/-- Whether a part is neither too deep nor too large. -/
structure Part.Small (part : Part) : Prop where
  depth : part.depth ≤ maxDepth
  space : part.regex.space ≤ spaceLimit

/-- The part that a text writes, of whatever size. -/
def part? (text : List Char) : Option Part := parseFrom (text.length + 1) .start text

/-- Whether an expression is valid also with the ending put after it. So it is where a comment is open
at its end. -/
def Swallows (text : List Char) : Prop := (part? (text ++ ending)).isSome = true

instance (text : List Char) : Decidable (Swallows text) := inferInstanceAs (Decidable (_ = true))

variable {text : List Char} {regex : Regex}

theorem part?_eq_some_iff : part? text = some part ↔ Runs .start text part :=
  parseFrom_eq_some_iff (Nat.lt_succ_self _)

theorem parse?_eq_some_iff :
    parse? text = some regex ↔ ∃ part, part? text = some part ∧ part.Small ∧ part.regex = regex := by
  have eq : parse? text = (part? text).bind fun part =>
      if part.depth ≤ maxDepth && part.regex.space ≤ spaceLimit then some part.regex else none := by
    unfold parse? part?
    split
    · next eq => rw [Progress.start, eq, Option.bind_some]
    · next eq => rw [Progress.start, eq, Option.bind_none]
  rw [eq, Option.bind_eq_some_iff]
  refine exists_congr fun part => and_congr_right fun _ => ?_
  rw [Option.ite_none_right_eq_some, Bool.and_eq_true, decide_eq_true_iff, decide_eq_true_iff,
    Option.some.injEq]
  exact and_congr_left fun _ => ⟨fun h => ⟨h.1, h.2⟩, fun h => ⟨h.depth, h.space⟩⟩

theorem Part.Small.of_anchored (small : part.anchored.Small) : part.Small := by
  have depth := small.depth
  have space := small.space
  simp only [Part.anchored, Regex.anchored, Regex.space] at depth space
  exact ⟨by omega, by omega⟩

/-- What is put before an expression opens the group. -/
theorem runs_wholly :
    Runs .start (Pattern.wholly text) final
      ↔ Runs (Progress.start.under [.afterStart]) (text ++ ending) final := by
  have text_eq : Pattern.wholly text = '^' :: '(' :: '?' :: ':' :: (text ++ ending) :=
    List.append_assoc ..
  rw [text_eq, Runs.iff_of_step rfl rfl, Runs.iff_of_step rfl rfl]
  rfl

/-- The ending closes the group. -/
theorem runs_ending (outermost : q.groups = []) :
    Runs (q.under [.afterStart]) ending final ↔ final = q.part.anchored := by
  obtain ⟨options, entries, branches, inner, names⟩ := q
  cases outermost
  rw [Runs.iff_of_step (skip_ending _) rfl, Runs.iff_of_step rfl rfl, Runs.done_iff rfl]
  exact and_iff_right rfl

/-- A valid expression is anchored as a whole, unless it swallows the ending. -/
theorem part?_wholly (valid : part? text = some part) :
    part? (Pattern.wholly text) = some final ↔ final = part.anchored ∧ ¬ Swallows text := by
  have runs := part?_eq_some_iff.1 valid
  have swallows : Swallows text ↔ ∃ final, Runs .start (text ++ ending) final := by
    simp only [Swallows, Option.isSome_iff_exists, part?_eq_some_iff]
  rw [part?_eq_some_iff, runs_wholly, swallows]
  rcases runs.reaches_or (.append text) .afterStart with ⟨⟨q, outermost, same, goes⟩, none⟩ | ⟨own, none⟩
  · rw [goes, runs_ending outermost, same, not_exists]
    exact (and_iff_left none).symm
  · exact iff_of_false (none final) fun h => h.2 ⟨_, own⟩

/-- What gets through as a whole is a valid expression that does not swallow the ending, or closes the
group itself. -/
theorem part?_wholly_iff : part? (Pattern.wholly text) = some final
    ↔ (∃ part, part? text = some part ∧ ¬ Swallows text ∧ final = part.anchored)
      ∨ BreaksOut .afterStart .start text final := by
  constructor
  · intro wholly
    have runs := runs_wholly.1 (part?_eq_some_iff.1 wholly)
    refine (runs_or_breaksOut runs rfl (.append text)).imp_left ?_
    rintro ⟨part, own⟩
    have valid := part?_eq_some_iff.2 own
    obtain ⟨same, ends⟩ := (part?_wholly valid).1 wholly
    exact ⟨part, valid, ends, same⟩
  · rintro (⟨part, valid, ends, same⟩ | breaksOut)
    · exact (part?_wholly valid).2 ⟨same, ends⟩
    · exact part?_eq_some_iff.2 (runs_wholly.2 (breaksOut.runs (.append text)))

/-- What a valid expression becomes if it is accepted as a whole. -/
theorem eq_anchored {whole : Regex} (valid : parse? text = some regex)
    (accepted : parse? (Pattern.wholly text) = some whole) : whole = regex.anchored := by
  obtain ⟨part, own, -, rfl⟩ := parse?_eq_some_iff.1 valid
  obtain ⟨final, wholly, -, rfl⟩ := parse?_eq_some_iff.1 accepted
  rw [((part?_wholly own).1 wholly).1]
  rfl

/-- Whether an expression keeps to the group that it is put into: if it is valid, it does not swallow
the end of the group and there is room for the group, and it does not get through by closing the group
itself. -/
structure KeepsToGroup (text : List Char) : Prop where
  ends : (parse? text).isSome = true → ¬ Swallows text
  room : ∀ part, part? text = some part → part.Small → part.anchored.Small
  stays : ∀ final, BreaksOut .afterStart .start text final → ¬ final.Small

/-- The expressions that keep to the group are those that are accepted as a whole just if they are
valid. -/
theorem keepsToGroup_iff : KeepsToGroup text
    ↔ ((∃ whole, parse? (Pattern.wholly text) = some whole) ↔ ∃ regex, parse? text = some regex) := by
  constructor
  · intro keeps
    constructor
    · rintro ⟨whole, accepted⟩
      obtain ⟨final, wholly, small, -⟩ := parse?_eq_some_iff.1 accepted
      rcases part?_wholly_iff.1 wholly with ⟨part, valid, -, rfl⟩ | breaksOut
      · exact ⟨_, parse?_eq_some_iff.2 ⟨part, valid, small.of_anchored, rfl⟩⟩
      · exact absurd small (keeps.stays final breaksOut)
    · rintro ⟨regex, valid⟩
      have ends := keeps.ends (Option.isSome_iff_exists.2 ⟨regex, valid⟩)
      obtain ⟨part, valid, small, -⟩ := parse?_eq_some_iff.1 valid
      exact ⟨_, parse?_eq_some_iff.2
        ⟨_, (part?_wholly valid).2 ⟨rfl, ends⟩, keeps.room part valid small, rfl⟩⟩
  · intro same
    have accepted {part : Part} (valid : part? text = some part) (small : part.Small) :
        ¬ Swallows text ∧ part.anchored.Small := by
      obtain ⟨_, accepted⟩ := same.2 ⟨_, parse?_eq_some_iff.2 ⟨part, valid, small, rfl⟩⟩
      obtain ⟨final, wholly, small, -⟩ := parse?_eq_some_iff.1 accepted
      obtain ⟨rfl, ends⟩ := (part?_wholly valid).1 wholly
      exact ⟨ends, small⟩
    refine ⟨fun valid => ?_, fun part valid small => (accepted valid small).2,
      fun final breaksOut small => ?_⟩
    · obtain ⟨regex, valid⟩ := Option.isSome_iff_exists.1 valid
      obtain ⟨part, valid, small, -⟩ := parse?_eq_some_iff.1 valid
      exact (accepted valid small).1
    · have wholly := part?_wholly_iff.2 (.inr breaksOut)
      obtain ⟨regex, valid⟩ := same.1 ⟨_, parse?_eq_some_iff.2 ⟨final, wholly, small, rfl⟩⟩
      obtain ⟨part, valid, -⟩ := parse?_eq_some_iff.1 valid
      exact breaksOut.not_runs (part?_eq_some_iff.1 valid)

end SpanSearch.Regex
