import SpanSearch.Expression.Eval
import SpanSearch.Pattern.Basic

/-! # The attributes of a match

The setters of a pattern give attributes to what was matched. Values of one attribute are combined
by the policy of the setter that brings the later one.
-/

namespace SpanSearch

/-- Combines a value with an earlier one. -/
def Policy.combine (policy : Policy) (separator earlier value : String) : String :=
  match policy with
  | .first => earlier
  | .last => value
  | .longest => if earlier.length < value.length then value else earlier
  | .join own => earlier ++ own.getD separator ++ value

/-- The attributes with a value brought in. -/
def Attributes.merge (attributes : Attributes) (policy : Policy) (separator name value : String) :
    Attributes :=
  match attributes.get? name with
  | none => attributes.insert name value
  | some earlier => attributes.insert name (policy.combine separator earlier value)

/-- The value that a setter gives to a span: its text, or the value of the expression if that is
true. An empty value is none. -/
def Setter.value? (s : Setter) (tokens : List Token) (span : Annotation) : Option String :=
  let value :=
    match s.expression with
    | none => some (span.text tokens)
    | some e =>
      match e.eval tokens span with
      | .ok value => if value.isTruthy then some value.toText else none
      | .error _ => none
  value.filter (!·.isEmpty)

/-- The attributes after a setter, if it has a value. -/
def Setter.mergeInto? (s : Setter) (tokens : List Token) (separator : String) (span : Annotation)
    (attributes : Attributes) : Option Attributes :=
  (s.value? tokens span).map (attributes.merge s.policy separator s.name)

/-- The attributes after several setters. -/
def Setter.applyAll (setters : List Setter) (tokens : List Token) (separator : String)
    (span : Annotation) (attributes : Attributes) : Attributes :=
  setters.foldl
    (fun attributes s => (s.mergeInto? tokens separator span attributes).getD attributes) attributes

/-- The attributes after several setters, if one of them has a value. -/
def Setter.applyAll? (setters : List Setter) (tokens : List Token) (separator : String)
    (span : Annotation) (attributes : Attributes) : Option Attributes :=
  if setters.any fun s => (s.value? tokens span).isSome then
    some (applyAll setters tokens separator span attributes)
  else none

end SpanSearch
