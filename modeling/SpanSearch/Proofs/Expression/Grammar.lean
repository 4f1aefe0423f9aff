import SpanSearch.Expression.Eval
import SpanSearch.Expression.Parser

/-! # The grammar of expressions

Which lexemes make up an expression, and what they stand for. A row of operands stands for something
as a whole, so the grammar itself says nothing of the order in which operands are joined. Read as
terms, they are joined from the left. Read as values, they are looked at from the left until one of
them decides. Both come to the same, since evaluation leads from the one reading to the other.
-/

namespace SpanSearch.Expression

/-- A part of an expression that the grammar has a rule for. -/
inductive Part where
  | either | both | compare | primary
  deriving DecidableEq

/-- What the parts of an expression stand for, given what is stood for by their parts. -/
structure Reading (α : Type) where
  constant : Value → α
  attr : String → α
  var : Variable → α
  /-- A disjunction, by its first operand and the others. There may be none. -/
  either : α → List α → α
  /-- A conjunction, by its first operand and the others. There may be none. -/
  both : α → List α → α
  compare : Comparison → α → α → α
  call : Function → List α → α

/-- Operands with a lexeme before each of them. -/
def preceded (mark : Lexeme) (items : List (List Lexeme × α)) : List Lexeme :=
  items.flatMap fun item => mark :: item.1

/-- Operands with a lexeme between any two of them. -/
def separated (mark : Lexeme) : List (List Lexeme × α) → List Lexeme
  | [] => []
  | first :: others => first.1 ++ preceded mark others

/-- The grammar: whether lexemes make up a part of an expression that stands for something. -/
inductive Reading.Derives (r : Reading α) : Part → List Lexeme → α → Prop
  | either {w : List Lexeme} {x : α} {items : List (List Lexeme × α)}
      (first : r.Derives .both w x) (others : ∀ item ∈ items, r.Derives .both item.1 item.2) :
      r.Derives .either (w ++ preceded (.word "or") items) (r.either x (items.map (·.2)))
  | both {w : List Lexeme} {x : α} {items : List (List Lexeme × α)}
      (first : r.Derives .compare w x) (others : ∀ item ∈ items, r.Derives .compare item.1 item.2) :
      r.Derives .both (w ++ preceded (.word "and") items) (r.both x (items.map (·.2)))
  | alone {w : List Lexeme} {x : α} (only : r.Derives .primary w x) : r.Derives .compare w x
  | compare {v w : List Lexeme} {x y : α} (op : Comparison) (left : r.Derives .primary v x)
      (right : r.Derives .primary w y) :
      r.Derives .compare (v ++ .comparison op :: w) (r.compare op x y)
  | literal (text : String) : r.Derives .primary [.literal text] (r.constant (.text text))
  | number (x : Number.Binary64) : r.Derives .primary [.number x] (r.constant (.number x))
  | attr (name : String) : r.Derives .primary [.attr name] (r.attr name)
  | var {name : String} {v : Variable} (known : Variable.ofName? name = some v) :
      r.Derives .primary [.var name] (r.var v)
  | group {w : List Lexeme} {x : α} (inner : r.Derives .either w x) :
      r.Derives .primary (.openParen :: (w ++ [.closeParen])) x
  | call {name : String} {f : Function} {items : List (List Lexeme × α)}
      (known : Function.ofName? name = some f) (takes : f.takes items.length = true)
      (arguments : ∀ item ∈ items, r.Derives .either item.1 item.2) :
      r.Derives .primary (.word name :: .openParen :: (separated .comma items ++ [.closeParen]))
        (r.call f (items.map (·.2)))

/-! ## Readings -/

/-- The reading as terms. Operands are joined from the left. -/
def Reading.tree : Reading Term where
  constant := .constant
  attr := .attr
  var := .var
  either first others := others.foldl .either first
  both first others := others.foldl .both first
  compare := .compare
  call := .call

/-- An attempt to find a value. -/
abbrev Outcome := Except NotNumber Value

/-- The value of operands of which the first with the given truth decides. Those after it are not
looked at. -/
def decided (truth : Bool) : List Outcome → Outcome
  | [] => .ok (.bool !truth)
  | x :: others => do if (← x).isTruthy == truth then .ok (.bool truth) else decided truth others

/-- The value of operands of which one decides. A single operand keeps its value. -/
def joined (truth : Bool) (first : Outcome) (others : List Outcome) : Outcome :=
  if others.isEmpty then first else decided truth (first :: others)

/-- The reading as values, for an annotation of tokens. -/
def Reading.value (tokens : List Token) (a : Annotation) : Reading Outcome where
  constant := .ok
  attr name := .ok ((a.attributes.get? name).elim .null .text)
  var v := .ok (v.eval tokens a)
  either := joined true
  both := joined false
  compare op left right := do
    let x ← left
    let y ← right
    .ok (.bool (op.test x y))
  call f arguments := do
    let values ← arguments.mapM id
    f.apply values

/-- Whether a function leads from what the one reading stands for to what the other does. -/
structure Reading.Leads (r : Reading α) (f : α → β) (s : Reading β) : Prop where
  constant (value : Value) : f (r.constant value) = s.constant value
  attr (name : String) : f (r.attr name) = s.attr name
  var (v : Variable) : f (r.var v) = s.var v
  either (x : α) (xs : List α) : f (r.either x xs) = s.either (f x) (xs.map f)
  both (x : α) (xs : List α) : f (r.both x xs) = s.both (f x) (xs.map f)
  compare (op : Comparison) (x y : α) : f (r.compare op x y) = s.compare op (f x) (f y)
  call (g : Function) (xs : List α) : f (r.call g xs) = s.call g (xs.map f)

section

variable {r : Reading α} {s : Reading β} {f : α → β} {part : Part} {w : List Lexeme}
  {mark : Lexeme}

theorem preceded_congr {items : List (List Lexeme × α)} {items' : List (List Lexeme × β)}
    (same : items.map (·.1) = items'.map (·.1)) : preceded mark items = preceded mark items' := by
  have flat {γ : Type} (items : List (List Lexeme × γ)) :
      preceded mark items = (items.map (·.1)).flatMap (mark :: ·) := by
    rw [List.flatMap_map]
    rfl
  rw [flat items, flat items', same]

theorem separated_congr {items : List (List Lexeme × α)} {items' : List (List Lexeme × β)}
    (same : items.map (·.1) = items'.map (·.1)) : separated mark items = separated mark items' := by
  cases items with
  | nil =>
    obtain rfl := List.map_eq_nil_iff.1 same.symm
    rfl
  | cons item items =>
    cases items' with
    | nil => cases same
    | cons item' items' =>
      obtain ⟨first, others⟩ := List.cons.inj same
      simp only [separated, first, preceded_congr others]

/-- Operands that are read in one way are read in the other, if each of them is. -/
theorem exists_items {P : List Lexeme → α → Prop} {items : List (List Lexeme × β)}
    (each : ∀ item ∈ items, ∃ x, P item.1 x ∧ f x = item.2) :
    ∃ items' : List (List Lexeme × α), items'.map (·.1) = items.map (·.1)
      ∧ (items'.map (·.2)).map f = items.map (·.2) ∧ ∀ item ∈ items', P item.1 item.2 := by
  induction items with
  | nil => exact ⟨[], rfl, rfl, by simp⟩
  | cons item items ih =>
    obtain ⟨⟨x, holds, same⟩, others⟩ := List.forall_mem_cons.1 each
    obtain ⟨items', words, values, hold⟩ := ih others
    refine ⟨(item.1, x) :: items', ?_, ?_, List.forall_mem_cons.2 ⟨holds, hold⟩⟩
    · rw [List.map_cons, List.map_cons, words]
    · rw [List.map_cons, List.map_cons, List.map_cons, values, same]

/-- What has one reading has the other, which is found from it. -/
theorem Reading.Derives.map {x : α} (derives : r.Derives part w x) (leads : r.Leads f s) :
    s.Derives part w (f x) := by
  have words (items : List (List Lexeme × α)) :
      items.map (·.1) = (items.map fun item => (item.1, f item.2)).map (·.1) := by
    rw [List.map_map]
    rfl
  have values (items : List (List Lexeme × α)) :
      (items.map (·.2)).map f = (items.map fun item => (item.1, f item.2)).map (·.2) := by
    rw [List.map_map, List.map_map]
    rfl
  induction derives with
  | @either w x items first others first_ih others_ih =>
    rw [leads.either, values items, preceded_congr (words items)]
    exact .either first_ih (List.forall_mem_map.2 others_ih)
  | @both w x items first others first_ih others_ih =>
    rw [leads.both, values items, preceded_congr (words items)]
    exact .both first_ih (List.forall_mem_map.2 others_ih)
  | alone only ih => exact .alone ih
  | compare op left right left_ih right_ih =>
    rw [leads.compare]
    exact .compare op left_ih right_ih
  | literal text =>
    rw [leads.constant]
    exact .literal text
  | number x =>
    rw [leads.constant]
    exact .number x
  | attr name =>
    rw [leads.attr]
    exact .attr name
  | var known =>
    rw [leads.var]
    exact .var known
  | group inner ih => exact .group ih
  | @call name g items known takes arguments ih =>
    rw [leads.call, values items, separated_congr (words items)]
    exact .call known (by rwa [List.length_map]) (List.forall_mem_map.2 ih)

/-- What has a reading that can be found from another has that other. -/
theorem Reading.Derives.exists_of_leads {y : β} (derives : s.Derives part w y)
    (leads : r.Leads f s) : ∃ x, r.Derives part w x ∧ f x = y := by
  induction derives with
  | either _ _ first_ih others_ih =>
    obtain ⟨x, first, rfl⟩ := first_ih
    obtain ⟨items', words, values, others⟩ := exists_items others_ih
    rw [← preceded_congr words, ← values, ← leads.either]
    exact ⟨_, .either first others, rfl⟩
  | both _ _ first_ih others_ih =>
    obtain ⟨x, first, rfl⟩ := first_ih
    obtain ⟨items', words, values, others⟩ := exists_items others_ih
    rw [← preceded_congr words, ← values, ← leads.both]
    exact ⟨_, .both first others, rfl⟩
  | alone _ ih =>
    obtain ⟨x, only, same⟩ := ih
    exact ⟨x, .alone only, same⟩
  | compare op _ _ left_ih right_ih =>
    obtain ⟨x, left, rfl⟩ := left_ih
    obtain ⟨y, right, rfl⟩ := right_ih
    exact ⟨_, .compare op left right, leads.compare op x y⟩
  | literal text => exact ⟨_, .literal text, leads.constant _⟩
  | number x => exact ⟨_, .number x, leads.constant _⟩
  | attr name => exact ⟨_, .attr name, leads.attr name⟩
  | var known => exact ⟨_, .var known, leads.var _⟩
  | group _ ih =>
    obtain ⟨x, inner, same⟩ := ih
    exact ⟨x, .group inner, same⟩
  | @call name g items known takes _ ih =>
    obtain ⟨items', words, values, arguments⟩ := exists_items ih
    have count : items'.length = items.length := by simpa using congrArg List.length words
    rw [← separated_congr words, ← values, ← leads.call]
    exact ⟨_, .call known (count ▸ takes) arguments, rfl⟩

/-- Every part of an expression has a lexeme, and does not start with a closing parenthesis. -/
theorem Reading.Derives.exists_head {x : α} (derives : r.Derives part w x) :
    ∃ l v, w = l :: v ∧ l ≠ .closeParen := by
  induction derives with
  | either _ _ ih | both _ _ ih =>
    obtain ⟨l, v, rfl, other⟩ := ih
    exact ⟨l, _, rfl, other⟩
  | alone _ ih => exact ih
  | compare _ _ _ ih =>
    obtain ⟨l, v, rfl, other⟩ := ih
    exact ⟨l, _, rfl, other⟩
  | _ => exact ⟨_, _, rfl, nofun⟩

theorem Reading.Derives.length_pos {x : α} (derives : r.Derives part w x) : 0 < w.length := by
  obtain ⟨l, v, rfl, -⟩ := derives.exists_head
  exact Nat.succ_pos _

end

/-! ## Evaluation -/

section

variable {tokens : List Token} {a : Annotation}

theorem evalList_eq (terms : List Term) :
    Term.evalList tokens a terms = (terms.map (·.eval tokens a)).mapM id := by
  induction terms with
  | nil => rfl
  | cons term terms ih =>
    rw [Term.evalList, ih, List.map_cons, List.mapM_cons]
    rfl

theorem decided_cons (truth : Bool) (x : Outcome) (others : List Outcome) :
    decided truth (x :: others)
      = x >>= fun value =>
          if value.isTruthy == truth then .ok (.bool truth) else decided truth others := rfl

theorem decided_ok (truth : Bool) (value : Value) (others : List Outcome) :
    decided truth (.ok value :: others)
      = if value.isTruthy = truth then .ok (.bool truth) else decided truth others := by
  rw [decided_cons]
  simp only [beq_iff_eq]
  rfl

/-- Two operands are as good as the one that is made of them. -/
theorem decided_decided (truth : Bool) (x y : Outcome) (others : List Outcome) :
    decided truth (decided truth [x, y] :: others) = decided truth (x :: y :: others) := by
  have known (b : Bool) : (Value.bool b).isTruthy = b := rfl
  cases x with
  | error e => rfl
  | ok x =>
    by_cases first : x.isTruthy = truth
    · simp only [decided_ok, first, if_true, known]
    · cases y with
      | error e =>
        rw [decided_ok, if_neg first, decided_ok, if_neg first]
        rfl
      | ok y =>
        by_cases second : y.isTruthy = truth
        · simp only [decided_ok, first, if_false, second, if_true, known]
        · simp only [decided_ok, first, second, if_false]
          rw [decided, decided_ok, known, if_neg]
          simp

/-- Operands that are joined from the left have the value of the row. `join` is what joins two of
them. -/
theorem eval_foldl {truth : Bool} {join : Term → Term → Term}
    (pair : ∀ x y, (join x y).eval tokens a = decided truth [x.eval tokens a, y.eval tokens a])
    (first : Term) (others : List Term) :
    (others.foldl join first).eval tokens a
      = joined truth (first.eval tokens a) (others.map (·.eval tokens a)) := by
  induction others generalizing first with
  | nil => rfl
  | cons second others ih =>
    rw [List.foldl_cons, ih, pair]
    cases others with
    | nil => rfl
    | cons third others => exact decided_decided truth _ _ _

theorem eval_either (x y : Term) :
    (Term.either x y).eval tokens a = decided true [x.eval tokens a, y.eval tokens a] := by
  rw [Term.eval]
  cases x.eval tokens a with
  | error e => rfl
  | ok x =>
    rw [decided_ok]
    change ite .. = _
    split
    · rfl
    · cases y.eval tokens a with
      | error e => rfl
      | ok y =>
        rw [decided_ok]
        change Except.ok (Value.bool y.isTruthy) = _
        cases y.isTruthy <;> rfl

theorem eval_both (x y : Term) :
    (Term.both x y).eval tokens a = decided false [x.eval tokens a, y.eval tokens a] := by
  rw [Term.eval]
  cases x.eval tokens a with
  | error e => rfl
  | ok x =>
    rw [decided_ok]
    change ite .. = _
    split
    · next holds =>
      rw [holds]
      cases y.eval tokens a with
      | error e => rfl
      | ok y =>
        rw [decided_ok]
        change Except.ok (Value.bool y.isTruthy) = _
        cases y.isTruthy <;> rfl
    · next fails =>
      rw [if_pos (by simpa using fails)]

/-- Evaluation leads from terms to values. -/
theorem leads_eval (tokens : List Token) (a : Annotation) :
    Reading.tree.Leads (·.eval tokens a) (.value tokens a) where
  constant value := by rw [Reading.tree, Term.eval]; rfl
  attr name := by rw [Reading.tree, Term.eval]; rfl
  var v := by rw [Reading.tree, Term.eval]; rfl
  either := eval_foldl eval_either
  both := eval_foldl eval_both
  compare op x y := by rw [Reading.tree, Term.eval]; rfl
  call f xs := by rw [Reading.tree, Term.eval, evalList_eq]; rfl

end

end SpanSearch.Expression
