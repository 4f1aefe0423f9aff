import SpanSearch.Number.Read
import SpanSearch.Number.Shortest
import SpanSearch.Unicode.Space

/-! # Values of expressions

An expression has a value without a fixed type: nothing at all, a truth value, a number or a text.
Every value can be read as a truth value and as a text, and some as a number.
-/

namespace SpanSearch.Expression

open Number

/-- What an expression evaluates to. -/
inductive Value where
  | null
  | bool (b : Bool)
  | number (x : Binary64)
  | text (s : String)
  deriving DecidableEq

namespace Value

/-- The truth of a value. An empty text and zero are false, and so is nothing. -/
def isTruthy : Value → Bool
  | null => false
  | bool b => b
  | number x => x.isTruthy
  | text s => !s.isEmpty

/-- The text of a value, which is empty for nothing. -/
def toText : Value → String
  | null => ""
  | bool true => "true"
  | bool false => "false"
  | number x => x.text
  | text s => s

/-- The number of a value, if it can be read as one. -/
def toNumber? : Value → Option Binary64
  | null => none
  | bool true => some (.ofNat 1)
  | bool false => some (.ofNat 0)
  | number x => some x
  | text s => read? (Unicode.trim s.toList)

/-- Whether the value is nothing. -/
def isNull : Value → Bool
  | null => true
  | _ => false

end Value

end SpanSearch.Expression
