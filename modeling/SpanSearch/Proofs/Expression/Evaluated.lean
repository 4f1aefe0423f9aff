import Mathlib.Logic.Relation
import SpanSearch.Proofs.Expression.Checked

/-! # What is evaluated

To evaluate a term is to evaluate some of the terms that it is made of: operands up to the one that
decides, arguments up to the one that fails. What stops an evaluation stops it at one of the terms that
are evaluated, whichever way of evaluation that is.
-/

namespace SpanSearch.Expression

theorem bind_eq_error {x : Except ε α} {f : α → Except ε β} {e : ε} :
    x >>= f = .error e ↔ x = .error e ∨ ∃ value, x = .ok value ∧ f value = .error e := by
  cases x with
  | error e => simp [bind, Except.bind]
  | ok value => simp [bind, Except.bind]

/-- What is made of a value has an error just where there is no value. -/
theorem bind_ok_eq_error {x : Except ε α} {f : α → β} {e : ε} :
    (x >>= fun value => .ok (f value)) = .error e ↔ x = .error e := by
  simp [bind_eq_error]

/-- Whether the evaluation of a term comes to a part of it: to the first operand, to the second one
where the first does not decide, to an argument where those before it have values. -/
inductive Needs (tokens : List Token) (a : Annotation) : Term → Term → Prop
  | bothLeft {left right : Term} : Needs tokens a (.both left right) left
  | bothRight {left right : Term} {x : Value} (first : left.eval tokens a = .ok x)
    (holds : x.isTruthy = true) : Needs tokens a (.both left right) right
  | eitherLeft {left right : Term} : Needs tokens a (.either left right) left
  | eitherRight {left right : Term} {x : Value} (first : left.eval tokens a = .ok x)
    (fails : x.isTruthy = false) : Needs tokens a (.either left right) right
  | compareLeft {op : Comparison} {left right : Term} : Needs tokens a (.compare op left right) left
  | compareRight {op : Comparison} {left right : Term} {x : Value}
    (first : left.eval tokens a = .ok x) : Needs tokens a (.compare op left right) right
  | argument {f : Function} {before after : List Term} {t : Term} {values : List Value}
    (first : Term.evalList tokens a before = .ok values) :
    Needs tokens a (.call f (before ++ t :: after)) t

/-- Whether the evaluation of a term comes to another term within it, or to itself. -/
abbrev Evaluated (tokens : List Token) (a : Annotation) : Term → Term → Prop :=
  Relation.ReflTransGen (Needs tokens a)

/-- A way to evaluate terms that gives the values of evaluation, but may stop for a reason of its own.
It differs from others in what it does with variables and calls. -/
structure Evaluator (tokens : List Token) (a : Annotation) (var : Variable → Except ε Value)
    (call : Function → List Value → Except ε Value) (stop : ε) (g : Term → Except ε Value)
    (gs : List Term → Except ε (List Value)) : Prop where
  constant (value : Value) : g (.constant value) = .ok value
  attr (name : String) : g (.attr name) = .ok ((a.attributes.get? name).elim .null .text)
  var (v : Variable) : g (.var v) = var v
  both (left right : Term) : g (.both left right) = g left >>= fun x =>
    if x.isTruthy then g right >>= fun y => .ok (.bool y.isTruthy) else .ok (.bool false)
  either (left right : Term) : g (.either left right) = g left >>= fun x =>
    if x.isTruthy then .ok (.bool true) else g right >>= fun y => .ok (.bool y.isTruthy)
  compare (op : Comparison) (left right : Term) : g (.compare op left right) = g left >>= fun x =>
    g right >>= fun y => .ok (.bool (op.test x y))
  call (f : Function) (arguments : List Term) : g (.call f arguments) = gs arguments >>= call f
  nil : gs [] = .ok []
  cons (t : Term) (ts : List Term) : gs (t :: ts) = g t >>= fun value =>
    gs ts >>= fun values => .ok (value :: values)
  /-- Its values are those of evaluation. -/
  sound {t : Term} {x : Value} : Applied t → g t = .ok x → t.eval tokens a = .ok x
  /-- Where evaluation has a value, it has that value or stops for its own reason. -/
  complete {t : Term} {x : Value} :
    Applied t → t.eval tokens a = .ok x → g t = .ok x ∨ g t = .error stop

/-- Whether a term itself stops an evaluation, after those that it needs. -/
inductive StopsAt (tokens : List Token) (a : Annotation) (var : Variable → Except ε Value)
    (call : Function → List Value → Except ε Value) (stop : ε) : Term → Prop
  | var {v : Variable} (stopped : var v = .error stop) : StopsAt tokens a var call stop (.var v)
  | call {f : Function} {arguments : List Term} {values : List Value}
    (evaluated : Term.evalList tokens a arguments = .ok values)
    (stopped : call f values = .error stop) : StopsAt tokens a var call stop (.call f arguments)

section

variable {tokens : List Token} {a : Annotation} {t u : Term} {ts : List Term} {values : List Value}

theorem sizeOf_lt_of_needs (needs : Needs tokens a t u) : sizeOf u < sizeOf t := by
  cases needs with
  | @argument f before after _ _ first =>
    have within := List.sizeOf_lt_of_mem (show u ∈ before ++ u :: after by simp)
    rw [Term.call.sizeOf_spec]
    omega
  | bothLeft | bothRight | eitherLeft | eitherRight | compareLeft | compareRight =>
    simp only [Term.both.sizeOf_spec, Term.either.sizeOf_spec, Term.compare.sizeOf_spec]
    omega

theorem Applied.of_needs (applied : Applied t) (needs : Needs tokens a t u) : Applied u := by
  cases needs with
  | bothLeft => cases applied with | both here _ => exact here
  | bothRight => cases applied with | both _ here => exact here
  | eitherLeft => cases applied with | either here _ => exact here
  | eitherRight => cases applied with | either _ here => exact here
  | compareLeft => cases applied with | compare here _ => exact here
  | compareRight => cases applied with | compare _ here => exact here
  | argument => cases applied with | call _ each => exact each u (by simp)

theorem Applied.of_evaluated (applied : Applied t) (evaluated : Evaluated tokens a t u) :
    Applied u := by
  induction evaluated with
  | refl => exact applied
  | tail _ needs ih => exact ih.of_needs needs

theorem evalList_cons {t : Term} {value : Value} (here : t.eval tokens a = .ok value)
    (later : Term.evalList tokens a ts = .ok values) :
    Term.evalList tokens a (t :: ts) = .ok (value :: values) := by
  rw [Term.evalList, here, later]
  rfl

end

namespace Evaluator

variable {tokens : List Token} {a : Annotation} {var : Variable → Except ε Value}
  {call : Function → List Value → Except ε Value} {stop : ε} {g : Term → Except ε Value}
  {gs : List Term → Except ε (List Value)} {t u : Term} {ts : List Term} {values : List Value}

theorem sound_list (evaluator : Evaluator tokens a var call stop g gs)
    (each : ∀ t ∈ ts, Applied t) (run : gs ts = .ok values) :
    Term.evalList tokens a ts = .ok values := by
  induction ts generalizing values with
  | nil =>
    rw [evaluator.nil] at run
    cases run
    rfl
  | cons t ts ih =>
    obtain ⟨here, later⟩ := List.forall_mem_cons.1 each
    rw [evaluator.cons] at run
    obtain ⟨value, first, run⟩ := bind_eq_ok.1 run
    obtain ⟨others, rest, run⟩ := bind_eq_ok.1 run
    cases run
    exact evalList_cons (evaluator.sound here first) (ih later rest)

theorem complete_list (evaluator : Evaluator tokens a var call stop g gs)
    (each : ∀ t ∈ ts, Applied t) (evaluated : Term.evalList tokens a ts = .ok values) :
    gs ts = .ok values ∨ gs ts = .error stop := by
  induction ts generalizing values with
  | nil =>
    cases evaluated
    exact .inl evaluator.nil
  | cons t ts ih =>
    obtain ⟨here, later⟩ := List.forall_mem_cons.1 each
    obtain ⟨value, first, evaluated⟩ := bind_eq_ok.1 evaluated
    obtain ⟨others, rest, evaluated⟩ := bind_eq_ok.1 evaluated
    cases evaluated
    rw [evaluator.cons]
    rcases evaluator.complete here first with first | stopped
    · rcases ih later rest with rest | stopped
      · rw [first, rest]
        exact .inl rfl
      · rw [first, stopped]
        exact .inr rfl
    · rw [stopped]
      exact .inr rfl

/-- What stops after a value stops, whether the value is found or not. -/
theorem bind_stops (evaluator : Evaluator tokens a var call stop g gs) {f : Value → Except ε β}
    {x : Value} (applied : Applied t) (first : t.eval tokens a = .ok x)
    (stopped : f x = .error stop) : g t >>= f = .error stop := by
  rcases evaluator.complete applied first with found | early
  · rw [found]
    exact stopped
  · rw [early]
    rfl

/-- The arguments stop an evaluation at one of them, after values for those before it. -/
theorem list_eq_error_iff (evaluator : Evaluator tokens a var call stop g gs)
    (each : ∀ t ∈ ts, Applied t) :
    gs ts = .error stop ↔ ∃ before t after values, ts = before ++ t :: after
      ∧ Term.evalList tokens a before = .ok values ∧ g t = .error stop := by
  constructor
  · intro stopped
    induction ts with
    | nil =>
      rw [evaluator.nil] at stopped
      cases stopped
    | cons t ts ih =>
      obtain ⟨here, later⟩ := List.forall_mem_cons.1 each
      rw [evaluator.cons, bind_eq_error] at stopped
      rcases stopped with stopped | ⟨value, first, stopped⟩
      · exact ⟨[], t, ts, [], rfl, rfl, stopped⟩
      · rw [bind_ok_eq_error] at stopped
        obtain ⟨before, u, after, values, rfl, evaluated, stopped⟩ := ih later stopped
        exact ⟨t :: before, u, after, value :: values, rfl,
          evalList_cons (evaluator.sound here first) evaluated, stopped⟩
  · rintro ⟨before, t, after, values, rfl, evaluated, stopped⟩
    induction before generalizing values with
    | nil =>
      rw [List.nil_append, evaluator.cons, stopped]
      rfl
    | cons u before ih =>
      obtain ⟨here, later⟩ := List.forall_mem_cons.1 each
      obtain ⟨value, first, evaluated⟩ := bind_eq_ok.1 evaluated
      obtain ⟨others, rest, -⟩ := bind_eq_ok.1 evaluated
      rw [List.cons_append, evaluator.cons]
      apply evaluator.bind_stops here first
      rw [bind_ok_eq_error]
      exact ih others later rest

/-- Where an evaluation stops, the term stops it, or one that this needs. -/
theorem stops_or_needs (evaluator : Evaluator tokens a var call stop g gs) (applied : Applied t)
    (stopped : g t = .error stop) :
    StopsAt tokens a var call stop t ∨ ∃ u, Needs tokens a t u ∧ g u = .error stop := by
  cases applied with
  | constant =>
    rw [evaluator.constant] at stopped
    cases stopped
  | attr =>
    rw [evaluator.attr] at stopped
    cases stopped
  | var =>
    rw [evaluator.var] at stopped
    exact .inl (.var stopped)
  | both left right =>
    right
    rw [evaluator.both, bind_eq_error] at stopped
    rcases stopped with stopped | ⟨x, first, stopped⟩
    · exact ⟨_, .bothLeft, stopped⟩
    · split at stopped
      · next holds =>
        rw [bind_ok_eq_error] at stopped
        exact ⟨_, .bothRight (evaluator.sound left first) holds, stopped⟩
      · cases stopped
  | either left right =>
    right
    rw [evaluator.either, bind_eq_error] at stopped
    rcases stopped with stopped | ⟨x, first, stopped⟩
    · exact ⟨_, .eitherLeft, stopped⟩
    · split at stopped
      · cases stopped
      · next fails =>
        rw [Bool.not_eq_true] at fails
        rw [bind_ok_eq_error] at stopped
        exact ⟨_, .eitherRight (evaluator.sound left first) fails, stopped⟩
  | compare left right =>
    right
    rw [evaluator.compare, bind_eq_error] at stopped
    rcases stopped with stopped | ⟨x, first, stopped⟩
    · exact ⟨_, .compareLeft, stopped⟩
    · rw [bind_ok_eq_error] at stopped
      exact ⟨_, .compareRight (evaluator.sound left first), stopped⟩
  | call takes each =>
    rw [evaluator.call, bind_eq_error] at stopped
    rcases stopped with stopped | ⟨values, evaluated, stopped⟩
    · obtain ⟨before, u, after, values, rfl, evaluated, stopped⟩ :=
        (evaluator.list_eq_error_iff each).1 stopped
      exact .inr ⟨u, .argument evaluated, stopped⟩
    · exact .inl (.call (evaluator.sound_list each evaluated) stopped)

theorem error_of_stops (evaluator : Evaluator tokens a var call stop g gs) (applied : Applied t)
    (stops : StopsAt tokens a var call stop t) : g t = .error stop := by
  cases stops with
  | var stopped => rw [evaluator.var, stopped]
  | call evaluated stopped =>
    cases applied with
    | call _ each =>
      rw [evaluator.call]
      rcases evaluator.complete_list each evaluated with run | early
      · rw [run]
        exact stopped
      · rw [early]
        rfl

theorem error_of_needs (evaluator : Evaluator tokens a var call stop g gs) (applied : Applied t)
    (needs : Needs tokens a t u) (stopped : g u = .error stop) : g t = .error stop := by
  cases needs with
  | bothLeft =>
    rw [evaluator.both, stopped]
    rfl
  | bothRight first holds =>
    cases applied with
    | both left _ =>
      rw [evaluator.both]
      apply evaluator.bind_stops left first
      rw [if_pos holds, bind_ok_eq_error]
      exact stopped
  | eitherLeft =>
    rw [evaluator.either, stopped]
    rfl
  | eitherRight first fails =>
    cases applied with
    | either left _ =>
      rw [evaluator.either]
      apply evaluator.bind_stops left first
      rw [if_neg (by simp [fails]), bind_ok_eq_error]
      exact stopped
  | compareLeft =>
    rw [evaluator.compare, stopped]
    rfl
  | compareRight first =>
    cases applied with
    | compare left _ =>
      rw [evaluator.compare]
      apply evaluator.bind_stops left first
      rw [bind_ok_eq_error]
      exact stopped
  | argument first =>
    cases applied with
    | call _ each =>
      rw [evaluator.call, (evaluator.list_eq_error_iff each).2 ⟨_, _, _, _, rfl, first, stopped⟩]
      rfl

/-- An evaluation stops just where one of the terms that are evaluated stops it. -/
theorem eq_error_iff (evaluator : Evaluator tokens a var call stop g gs) (applied : Applied t) :
    g t = .error stop ↔ ∃ u, Evaluated tokens a t u ∧ StopsAt tokens a var call stop u := by
  constructor
  · intro stopped
    -- a term is greater than those that it needs
    induction size : sizeOf t using Nat.strongRecOn generalizing t with
    | ind n ih =>
      rcases evaluator.stops_or_needs applied stopped with stops | ⟨u, needs, stopped⟩
      · exact ⟨t, .refl, stops⟩
      · obtain ⟨v, evaluated, stops⟩ :=
          ih _ (size ▸ sizeOf_lt_of_needs needs) (applied.of_needs needs) stopped rfl
        exact ⟨v, .head needs evaluated, stops⟩
  · rintro ⟨u, evaluated, stops⟩
    induction evaluated using Relation.ReflTransGen.head_induction_on with
    | refl => exact evaluator.error_of_stops applied stops
    | head needs _ ih => exact evaluator.error_of_needs applied needs (ih (applied.of_needs needs))

end Evaluator

/-! ## Evaluation with and without checks -/

section

variable {tokens : List Token} {a : Annotation}

/-- Evaluation itself, which may stop at something that is not a number. -/
theorem evaluator_eval (reason : NotNumber) :
    Evaluator tokens a (fun v => .ok (v.eval tokens a)) Function.apply reason (Term.eval tokens a)
      (Term.evalList tokens a) where
  constant _ := by rw [Term.eval]
  attr _ := by rw [Term.eval]
  var _ := by rw [Term.eval]
  both _ _ := by rw [Term.eval]
  either _ _ := by rw [Term.eval]
  compare _ _ _ := by rw [Term.eval]
  call _ _ := by rw [Term.eval]
  nil := by rw [Term.evalList]
  cons _ _ := by rw [Term.evalList]
  sound _ given := given
  complete _ given := .inl given

/-- Evaluation with checks, which may stop at a sum or a difference. -/
theorem evaluator_run :
    Evaluator tokens a (·.run tokens a) Function.run .overflow (Term.run tokens a)
      (Term.runList tokens a) where
  constant _ := by rw [Term.run]
  attr _ := by rw [Term.run]
  var _ := by rw [Term.run]
  both _ _ := by rw [Term.run]
  either _ _ := by rw [Term.run]
  compare _ _ _ := by rw [Term.run]
  call _ _ := by rw [Term.run]
  nil := by rw [Term.runList]
  cons _ _ := by rw [Term.runList]
  sound applied given := (conforms_eval applied).eq_ok given
  complete applied given := (conforms_eval applied).of_ok given

end

end SpanSearch.Expression
