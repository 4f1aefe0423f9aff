import Mathlib.Data.List.Basic
import SpanSearch.Expression.Engine
import SpanSearch.Proofs.Expression.Derived

/-! # Evaluation with checks

Each call that the parser accepts has as many arguments as its function takes, so an evaluation that
checks whether the arguments it looks up are there finds them all. If it checks its sums and
differences of words too, it stops at the first that is no word, and otherwise comes to what evaluation
comes to.
-/

namespace SpanSearch.Expression

open Number

/-- Why an evaluation that checks its steps has no value. -/
inductive Stop where
  /-- An argument is asked for that is not there. -/
  | missing
  /-- A sum or a difference is no word of 64 bits. -/
  | overflow
  /-- The expression has no value. -/
  | fault (reason : NotNumber)
  deriving DecidableEq

/-! ## Checked evaluation -/

/-- The argument at a place. -/
def argument (values : List Value) (i : Nat) : Except Stop Value :=
  match values[i]? with
  | some value => .ok value
  | none => .error .missing

/-- The text of the argument at a place. -/
def textOf (values : List Value) (i : Nat) : Except Stop String := do
  let value ← argument values i
  .ok value.toText

/-- The number that a value reads as. -/
def numberOf (position : Position) (value : Value) : Except Stop Binary64 :=
  match value.toNumber? with
  | some x => .ok x
  | none => .error (.fault ⟨position, value.toText⟩)

/-- The integer, if it is a signed word of 64 bits. -/
def signed (n : Int) : Except Stop Int :=
  if Binary64.leastInt64 ≤ n ∧ n ≤ Binary64.greatestInt64 then .ok n else .error .overflow

/-- The number, if it is a word of 64 bits. -/
def unsigned (n : Nat) : Except Stop Nat := if n < Offset.limit then .ok n else .error .overflow

/-- The value of a function, with checks. A `substring` takes one from the start that it is given. -/
def Function.run (f : Function) (values : List Value) : Except Stop Value := do
  match f with
  | .negation =>
    let value ← argument values 0
    .ok (.bool !value.isTruthy)
  | .true => .ok (.bool Bool.true)
  | .false => .ok (.bool Bool.false)
  | .lower => .ok (.text (Unicode.toLower (← textOf values 0)))
  | .upper => .ok (.text (Unicode.toUpper (← textOf values 0)))
  | .concat => .ok (.text (String.join (values.map (·.toText))))
  | .contains =>
    let text ← textOf values 0
    let part ← textOf values 1
    .ok (.bool (splitOnce part.toList text.toList).isSome)
  | .startsWith =>
    let text ← textOf values 0
    let start ← textOf values 1
    .ok (.bool (start.toList.isPrefixOf text.toList))
  | .stringLength => .ok (.number (.ofNat (← textOf values 0).length))
  | .normalizeSpace =>
    let text ← textOf values 0
    .ok (.text (String.intercalate " " ((Unicode.words text.toList).map String.ofList)))
  | .substringBefore =>
    let text ← textOf values 0
    let mark ← textOf values 1
    .ok (.text (((splitOnce mark.toList text.toList).map (String.ofList ·.1)).getD ""))
  | .substringAfter =>
    let text ← textOf values 0
    let mark ← textOf values 1
    .ok (.text (((splitOnce mark.toList text.toList).map (String.ofList ·.2)).getD ""))
  | .substring =>
    let text ← textOf values 0
    let start ← numberOf .start (← argument values 1)
    let offset ← signed (start.toInt64 - 1)
    let tail := text.toList.drop offset.toNat
    -- the length is the one argument that may be left out
    match values[2]? with
    | none => .ok (.text (String.ofList tail))
    | some length =>
      let length ← numberOf .length length
      .ok (.text (String.ofList (tail.take length.toNat64)))

/-- The value of a variable, with checks. The text of an annotation goes up to its end, a sum. -/
def Variable.run (v : Variable) (tokens : List Token) (a : Annotation) : Except Stop Value :=
  match v with
  | .value => do
    let stop ← unsigned (a.start + a.size)
    .ok (.text (Token.textOf tokens a.start stop))
  | .type | .size | .start => .ok (v.eval tokens a)

mutual

/-- The value of a term, with checks. -/
def Term.run (tokens : List Token) (a : Annotation) : Term → Except Stop Value
  | .constant value => .ok value
  | .attr name => .ok ((a.attributes.get? name).elim .null .text)
  | .var v => v.run tokens a
  | .both left right => do
    let x ← left.run tokens a
    if x.isTruthy then
      let y ← right.run tokens a
      .ok (.bool y.isTruthy)
    else .ok (.bool false)
  | .either left right => do
    let x ← left.run tokens a
    if x.isTruthy then .ok (.bool true)
    else
      let y ← right.run tokens a
      .ok (.bool y.isTruthy)
  | .compare op left right => do
    let x ← left.run tokens a
    let y ← right.run tokens a
    .ok (.bool (op.test x y))
  | .call f arguments => do
    let values ← Term.runList tokens a arguments
    f.run values

/-- The values of terms, from left to right, with checks. -/
def Term.runList (tokens : List Token) (a : Annotation) : List Term → Except Stop (List Value)
  | [] => .ok []
  | term :: rest => do
    let value ← term.run tokens a
    let values ← Term.runList tokens a rest
    .ok (value :: values)

end

/-! ## Calls -/

/-- Whether each call in a term has as many arguments as its function takes. -/
inductive Applied : Term → Prop
  | constant {value : Value} : Applied (.constant value)
  | attr {name : String} : Applied (.attr name)
  | var {v : Variable} : Applied (.var v)
  | both {left right : Term} : Applied left → Applied right → Applied (.both left right)
  | either {left right : Term} : Applied left → Applied right → Applied (.either left right)
  | compare {op : Comparison} {left right : Term} :
    Applied left → Applied right → Applied (.compare op left right)
  | call {f : Function} {arguments : List Term} (takes : f.takes arguments.length = true)
    (each : ∀ t ∈ arguments, Applied t) : Applied (.call f arguments)

theorem applied_foldl {join : Term → Term → Term}
    (joined : ∀ {x y}, Applied x → Applied y → Applied (join x y)) {first : Term}
    {others : List Term} (here : Applied first) (later : ∀ t ∈ others, Applied t) :
    Applied (others.foldl join first) := by
  induction others generalizing first with
  | nil => exact here
  | cons second others ih =>
    obtain ⟨next, later⟩ := List.forall_mem_cons.1 later
    exact ih (joined here next) later

/-- What the grammar derives calls functions with as many arguments as they take. -/
theorem applied_of_derives {part : Part} {w : List Lexeme} {t : Term}
    (derives : Reading.tree.Derives part w t) : Applied t := by
  induction derives with
  | either _ _ first others => exact applied_foldl .either first (List.forall_mem_map.2 others)
  | both _ _ first others => exact applied_foldl .both first (List.forall_mem_map.2 others)
  | alone _ ih => exact ih
  | compare op _ _ left right => exact .compare left right
  | literal | number => exact .constant
  | attr => exact .attr
  | var => exact .var
  | group _ ih => exact ih
  | call _ takes _ ih =>
    refine .call ?_ (List.forall_mem_map.2 ih)
    rwa [List.length_map]

/-- So does what the parser accepts. -/
theorem applied_of_parse {source : String} {body : Term} (parsed : Term.parse source = .ok body) :
    Applied body := by
  obtain ⟨ls, -, parsed⟩ := bind_eq_ok.1 parsed
  obtain ⟨⟨term, rest⟩, taken, ended⟩ := bind_eq_ok.1 parsed
  cases rest with
  | cons l rest => cases ended
  | nil =>
    cases ended
    obtain ⟨ls', -, derives⟩ := (sound _ _).either taken
    exact applied_of_derives derives

theorem parse_of_standard {source : String} {e : Expression} (accepted : standard source = .ok e) :
    Term.parse source = .ok e.body := by
  unfold standard at accepted
  split at accepted
  · next parsed =>
    cases accepted
    exact parsed
  · cases accepted

/-! ## Agreement -/

/-- What evaluation comes to, as something that evaluation with checks may come to. -/
def lift : Except NotNumber α → Except Stop α
  | .ok value => .ok value
  | .error reason => .error (.fault reason)

/-- Evaluation with checks comes to the same as without them, or stops at a sum or a difference. -/
inductive Conforms (x : Except NotNumber α) : Except Stop α → Prop
  | same : Conforms x (lift x)
  | overflow : Conforms x (.error .overflow)

section

variable {x : Except NotNumber α} {y : Except Stop α} {value : α}

theorem lift_ne_overflow (x : Except NotNumber α) : lift x ≠ .error .overflow := by
  cases x <;> simp [lift]

theorem Conforms.bind {f : α → Except NotNumber β} {g : α → Except Stop β} (conforms : Conforms x y)
    (next : ∀ value, x = .ok value → Conforms (f value) (g value)) :
    Conforms (x >>= f) (y >>= g) := by
  cases conforms with
  | same =>
    cases x with
    | ok value => exact next value rfl
    | error reason => exact .same
  | overflow => exact .overflow

theorem Conforms.ne_missing (conforms : Conforms x y) : y ≠ .error .missing := by
  intro missing
  cases conforms with
  | same => cases x <;> cases missing
  | overflow => cases missing

theorem Conforms.eq_lift (conforms : Conforms x y) (within : y ≠ .error .overflow) : y = lift x := by
  cases conforms with
  | same => rfl
  | overflow => exact absurd rfl within

/-- Where evaluation has a value, the checks let it through or stop at a sum or a difference. -/
theorem Conforms.of_ok (conforms : Conforms x y) (given : x = .ok value) :
    y = .ok value ∨ y = .error .overflow := by
  subst given
  cases conforms with
  | same => exact .inl rfl
  | overflow => exact .inr rfl

theorem Conforms.eq_ok (conforms : Conforms x y) (given : y = .ok value) : x = .ok value := by
  cases conforms with
  | same =>
    cases x with
    | ok value => exact congrArg _ (Except.ok.inj given)
    | error reason => cases given
  | overflow => cases given

end

/-! ## Functions -/

theorem toInt64_bounds (x : Binary64) :
    Binary64.leastInt64 ≤ x.toInt64 ∧ x.toInt64 ≤ Binary64.greatestInt64 := by
  unfold Binary64.toInt64
  simp only [Binary64.leastInt64, Binary64.greatestInt64]
  split
  · omega
  · split <;> omega
  · split <;> omega

/-- From the least word none can be taken away. -/
theorem signed_least {x : Binary64} (least : x.toInt64 = Binary64.leastInt64) :
    signed (x.toInt64 - 1) = .error .overflow := by
  rw [least]
  rfl

theorem signed_of_ne {x : Binary64} (notLeast : x.toInt64 ≠ Binary64.leastInt64) :
    signed (x.toInt64 - 1) = .ok (x.toInt64 - 1) := by
  obtain ⟨above, below⟩ := toInt64_bounds x
  rw [signed, if_pos]
  omega

theorem zeroBased_eq {x : Binary64} (notLeast : x.toInt64 ≠ Binary64.leastInt64) :
    zeroBased x = (x.toInt64 - 1).toNat := by
  simp [zeroBased, notLeast]

section

variable {f : Function} {values rest : List Value} {s start : Value} {x : Binary64}

theorem exists_of_takes (takes : Function.substring.takes values.length = true) :
    ∃ s start rest, values = s :: start :: rest := by
  match values with
  | [] | [_] => cases takes
  | s :: start :: rest => exact ⟨s, start, rest, rfl⟩

theorem run_noStart (start_ : start.toNumber? = none) :
    Function.substring.run (s :: start :: rest)
      = lift (Function.substring.apply (s :: start :: rest)) := by
  simp [Function.apply, Function.run, textOf, argument, numberOf, start_, bind, Except.bind, lift]

theorem run_start (start_ : start.toNumber? = some x) :
    Function.substring.run (s :: start :: rest)
      = if x.toInt64 = Binary64.leastInt64 then .error .overflow
        else lift (Function.substring.apply (s :: start :: rest)) := by
  by_cases least : x.toInt64 = Binary64.leastInt64
  · rw [if_pos least]
    simp [Function.run, textOf, argument, numberOf, start_, bind, Except.bind, signed_least least]
  · rw [if_neg least]
    have stays := signed_of_ne least
    cases rest with
    | nil =>
      simp [Function.apply, Function.run, textOf, argument, numberOf, start_, bind, Except.bind,
        stays, zeroBased_eq least, lift]
    | cons length rest =>
      cases length_ : length.toNumber? with
      | none =>
        simp [Function.apply, Function.run, textOf, argument, numberOf, start_, length_, bind,
          Except.bind, stays, lift]
      | some n =>
        simp [Function.apply, Function.run, textOf, argument, numberOf, start_, length_, bind,
          Except.bind, stays, zeroBased_eq least, lift]

/-- A function other than `substring` finds each argument that it looks up, and has a value. -/
theorem exists_run_eq (other : f ≠ .substring) (takes : f.takes values.length = true) :
    ∃ value, f.apply values = .ok value ∧ f.run values = .ok value := by
  cases f with
  | true | false | concat => exact ⟨_, rfl, rfl⟩
  | negation | lower | upper | stringLength | normalizeSpace =>
    obtain ⟨value, rfl⟩ := List.length_eq_one_iff.1 (beq_iff_eq.1 takes)
    exact ⟨_, rfl, rfl⟩
  | contains | startsWith | substringBefore | substringAfter =>
    obtain ⟨value, value', rfl⟩ := List.length_eq_two.1 (beq_iff_eq.1 takes)
    exact ⟨_, rfl, rfl⟩
  | substring => exact absurd rfl other

/-- With as many arguments as it takes, a function finds each that it looks up. -/
theorem conforms_apply (takes : f.takes values.length = true) :
    Conforms (f.apply values) (f.run values) := by
  by_cases isSubstring : f = .substring
  · subst isSubstring
    obtain ⟨s, start, rest, rfl⟩ := exists_of_takes takes
    cases start_ : start.toNumber? with
    | none =>
      rw [run_noStart start_]
      exact .same
    | some x =>
      rw [run_start start_]
      split
      · exact .overflow
      · exact .same
  · obtain ⟨value, applied, run⟩ := exists_run_eq isSubstring takes
    rw [applied, run]
    exact .same

end

/-! ## Terms -/

section

variable {tokens : List Token} {a : Annotation} {ts : List Term} {t : Term} {values : List Value}

theorem run_value : Variable.value.run tokens a
    = if a.start + a.size < Offset.limit then .ok (Variable.value.eval tokens a)
      else .error .overflow := by
  simp only [Variable.run, unsigned]
  split
  · next within =>
    rw [Variable.eval, Annotation.text, Annotation.stop, Offset.add_eq within]
    rfl
  · rfl

theorem conforms_var (v : Variable) : Conforms (.ok (v.eval tokens a)) (v.run tokens a) := by
  cases v with
  | value =>
    rw [run_value]
    split
    · exact .same
    · exact .overflow
  | type | size | start => exact .same

theorem length_evalList (evaluated : Term.evalList tokens a ts = .ok values) :
    values.length = ts.length := by
  induction ts generalizing values with
  | nil =>
    cases evaluated
    rfl
  | cons t ts ih =>
    obtain ⟨value, -, evaluated⟩ := bind_eq_ok.1 evaluated
    obtain ⟨values', later, evaluated⟩ := bind_eq_ok.1 evaluated
    cases evaluated
    rw [List.length_cons, List.length_cons, ih later]

theorem conforms_evalList (each : ∀ t ∈ ts, Conforms (t.eval tokens a) (t.run tokens a)) :
    Conforms (Term.evalList tokens a ts) (Term.runList tokens a ts) := by
  induction ts with
  | nil => exact .same
  | cons t ts ih =>
    obtain ⟨here, later⟩ := List.forall_mem_cons.1 each
    rw [Term.evalList, Term.runList]
    exact here.bind fun value _ => (ih later).bind fun values _ => .same

/-- Where each call has as many arguments as its function takes, the checks find no argument
missing. -/
theorem conforms_eval (applied : Applied t) : Conforms (t.eval tokens a) (t.run tokens a) := by
  induction applied with
  | constant | attr => exact .same
  | var => exact conforms_var _
  | both _ _ left right =>
    rw [Term.eval, Term.run]
    apply left.bind
    intro x _
    split
    · exact right.bind fun y _ => .same
    · exact .same
  | either _ _ left right =>
    rw [Term.eval, Term.run]
    apply left.bind
    intro x _
    split
    · exact .same
    · exact right.bind fun y _ => .same
  | compare _ _ left right =>
    rw [Term.eval, Term.run]
    exact left.bind fun x _ => right.bind fun y _ => .same
  | call takes _ each =>
    rw [Term.eval, Term.run]
    apply (conforms_evalList each).bind
    intro values evaluated
    apply conforms_apply
    rwa [length_evalList evaluated]

end

end SpanSearch.Expression
