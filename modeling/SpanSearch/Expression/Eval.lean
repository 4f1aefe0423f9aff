import SpanSearch.Annotation
import SpanSearch.Expression.Term
import SpanSearch.Split
import SpanSearch.Unicode.Case

/-! # Evaluating expressions

A term is evaluated for an annotation of a sequence of tokens. The only failure is an argument of
`substring` that is no number.
-/

namespace SpanSearch.Expression

open Number

/-- The argument of `substring` that is no number. -/
inductive Position where
  | start | length
  deriving DecidableEq

/-- Why an expression has no value: an argument that should be a number reads as a text. -/
structure NotNumber where
  position : Position
  text : String
  deriving DecidableEq

/-- The wording of the failure. -/
def NotNumber.message (e : NotNumber) : String :=
  let name := match e.position with
    | .start => "start"
    | .length => "length"
  s!"substring(): {name} is not a number: '{e.text}'"

/-- Whether two values compare in this way. Nothing compares with nothing at all; values that can
both be read as numbers compare as numbers, others as texts. What is not a number is only
unequal. -/
def Comparison.test (op : Comparison) (left right : Value) : Bool :=
  if left.isNull || right.isNull then false
  else
    match left.toNumber?, right.toNumber? with
    | some x, some y =>
      match x.order? y with
      | some o => op.holds o
      | none => op == .notEqual
    | _, _ => op.holds (Ord.compare left.toText right.toText)

/-- The offset that a position counted from one stands for. The subtraction is one of signed words
of 64 bits, so the least of them becomes the greatest. -/
def zeroBased (x : Binary64) : Nat :=
  let n := x.toInt64
  if n == Binary64.leastInt64 then Binary64.greatestInt64.toNat else (n - 1).toNat

/-- The value of a function for the values of its arguments. -/
def Function.apply (f : Function) (values : List Value) : Except NotNumber Value :=
  let text (i : Nat) : String := (values[i]?.map (·.toText)).getD ""
  match f with
  | .negation => .ok (.bool !((values[0]?.map (·.isTruthy)).getD Bool.false))
  | .true => .ok (.bool Bool.true)
  | .false => .ok (.bool Bool.false)
  | .lower => .ok (.text (Unicode.toLower (text 0)))
  | .upper => .ok (.text (Unicode.toUpper (text 0)))
  | .concat => .ok (.text (String.join (values.map (·.toText))))
  | .contains => .ok (.bool (splitOnce (text 1).toList (text 0).toList).isSome)
  | .startsWith => .ok (.bool ((text 1).toList.isPrefixOf (text 0).toList))
  | .stringLength => .ok (.number (.ofNat (text 0).length))
  | .normalizeSpace =>
    .ok (.text (String.intercalate " " ((Unicode.words (text 0).toList).map String.ofList)))
  | .substringBefore =>
    .ok (.text (((splitOnce (text 1).toList (text 0).toList).map (String.ofList ·.1)).getD ""))
  | .substringAfter =>
    .ok (.text (((splitOnce (text 1).toList (text 0).toList).map (String.ofList ·.2)).getD ""))
  | .substring =>
    match (values[1]?.getD Value.null).toNumber? with
    | none => .error ⟨.start, text 1⟩
    | some start =>
      let tail := (text 0).toList.drop (zeroBased start)
      match values[2]? with
      | none => .ok (.text (String.ofList tail))
      | some length =>
        match length.toNumber? with
        | none => .error ⟨.length, length.toText⟩
        | some length => .ok (.text (String.ofList (tail.take length.toNat64)))

/-- The value of a variable. -/
def Variable.eval (v : Variable) (tokens : List Token) (a : Annotation) : Value :=
  match v with
  | .type => .text a.type
  | .value => .text (a.text tokens)
  | .size => .number (.ofNat a.size)
  | .start => .number (.ofNat a.start)

mutual

/-- The value of a term. The right side of a conjunction or a disjunction is only looked at if the
left side does not decide it. -/
def Term.eval (tokens : List Token) (a : Annotation) : Term → Except NotNumber Value
  | .constant value => .ok value
  | .attr name => .ok ((a.attributes.get? name).elim .null .text)
  | .var v => .ok (v.eval tokens a)
  | .both left right => do
    let x ← left.eval tokens a
    if x.isTruthy then
      let y ← right.eval tokens a
      .ok (.bool y.isTruthy)
    else .ok (.bool false)
  | .either left right => do
    let x ← left.eval tokens a
    if x.isTruthy then .ok (.bool true)
    else
      let y ← right.eval tokens a
      .ok (.bool y.isTruthy)
  | .compare op left right => do
    let x ← left.eval tokens a
    let y ← right.eval tokens a
    .ok (.bool (op.test x y))
  | .call f arguments => do
    let values ← Term.evalList tokens a arguments
    f.apply values

/-- The values of terms, from left to right. -/
def Term.evalList (tokens : List Token) (a : Annotation) : List Term → Except NotNumber (List Value)
  | [] => .ok []
  | term :: rest => do
    let value ← term.eval tokens a
    let values ← Term.evalList tokens a rest
    .ok (value :: values)

end

/-- The value of an expression for an annotation. -/
def eval (e : Expression) (tokens : List Token) (a : Annotation) : Except NotNumber Value :=
  e.body.eval tokens a

end SpanSearch.Expression
