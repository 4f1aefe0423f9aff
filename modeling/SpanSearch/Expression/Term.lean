import SpanSearch.Expression.Lexeme
import SpanSearch.Expression.Value

/-! # Terms

The tree that an expression is parsed to, and the functions that it may call.
-/

namespace SpanSearch.Expression

/-- The functions that expressions may call. -/
inductive Function where
  | negation | true | false | lower | upper | concat | contains | startsWith | stringLength
  | normalizeSpace | substringBefore | substringAfter | substring
  deriving DecidableEq

/-- The functions by their names. -/
def Function.table : List (String × Function) := [
  ("not", negation), ("true", true), ("false", false), ("lower", lower), ("upper", upper),
  ("concat", concat), ("contains", contains), ("starts-with", startsWith),
  ("string-length", stringLength), ("normalize-space", normalizeSpace),
  ("substring-before", substringBefore), ("substring-after", substringAfter),
  ("substring", substring)]

/-- The function with the given name. -/
def Function.ofName? (name : String) : Option Function := table.lookup name

/-- Whether a function takes this many arguments. -/
def Function.takes (f : Function) (count : Nat) : Bool :=
  match f with
  | true | false => count == 0
  | negation | lower | upper | stringLength | normalizeSpace => count == 1
  | contains | startsWith | substringBefore | substringAfter => count == 2
  | substring => count == 2 || count == 3
  | concat => 1 ≤ count

/-- What an expression may ask about the annotation it is evaluated for. -/
inductive Variable where
  | type | value | size | start
  deriving DecidableEq

/-- The variable with the given name. -/
def Variable.ofName? (name : String) : Option Variable :=
  [("type", type), ("value", value), ("size", size), ("start", start)].lookup name

/-- A parsed expression. -/
inductive Term where
  | constant (value : Value)
  | attr (name : String)
  | var (v : Variable)
  | both (left right : Term)
  | either (left right : Term)
  | compare (op : Comparison) (left right : Term)
  | call (f : Function) (arguments : List Term)

end Expression

/-- An expression with the text it was parsed from. -/
structure Expression where
  source : String
  body : Expression.Term

end SpanSearch
