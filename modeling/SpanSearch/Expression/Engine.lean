import SpanSearch.Expression.Parser

/-! # Expression engines

Whatever turns texts into expressions is an engine. An engine says where a text is malformed, or
refuses it in its own words.
-/

namespace SpanSearch

/-- Why an engine does not give an expression. -/
inductive Expression.Fault where
  | malformed (cause : Expression.Cause) (offset : Nat)
  | refused (message : String)
  deriving DecidableEq

/-- A way to turn texts into expressions. -/
abbrev Expression.Engine := String → Except Expression.Fault Expression

/-- The engine of the expressions of this library. -/
def Expression.standard : Expression.Engine := fun source =>
  match Expression.Term.parse source with
  | .ok body => .ok ⟨source, body⟩
  | .error (cause, offset) => .error (.malformed cause offset)

end SpanSearch
