import SpanSearch.Expression.Lexeme

/-! # What is wrong with a pattern

The causes for which a text is no pattern, and their wording.
-/

namespace SpanSearch

/-- Text that stands between quotes. -/
inductive QuotedPart where
  | literal | regex | attributeValue
  deriving DecidableEq

/-- The name of a part in messages. -/
def QuotedPart.name : QuotedPart → String
  | literal => "literal"
  | regex => "regular expression"
  | attributeValue => "attribute value"

/-- Where a pattern has an expression. -/
inductive ExpressionPlace where
  | test | setter
  deriving DecidableEq

/-- The name of a place in messages. -/
def ExpressionPlace.name : ExpressionPlace → String
  | test => "test"
  | setter => "attribute setter"

/-- Why a text is no pattern. -/
inductive PatternCause where
  | empty
  | unexpectedClose
  | barOutsideGroup
  | unexpectedCharacter (c : Char)
  | emptyBranch
  | unclosedGroup
  | missingQuote (part : QuotedPart)
  | unterminated (part : QuotedPart)
  | emptyLiteral
  | emptyRegex
  | invalidRegex
  | unknownType (name : String)
  | unterminatedTag
  | unexpectedInTag (c : Char)
  | invalidExpression (place : ExpressionPlace) (cause : Expression.Cause)
  | unterminatedQuantifier
  | invalidQuantifier (inner : String)
  | repeatedQuantifier
  | missingColon
  | missingName
  | unterminatedSeparator
  | unterminatedExpression
  deriving DecidableEq

/-- The wording of a cause. -/
def PatternCause.message : PatternCause → String
  | empty => "Empty pattern"
  | unexpectedClose => "Unbalanced group: unexpected ')'"
  | barOutsideGroup => "Alternation '|' is only allowed inside a group"
  | unexpectedCharacter c => s!"Unexpected character '{c}'"
  | emptyBranch => "Empty group or alternative"
  | unclosedGroup => "Unbalanced group: missing ')'"
  | missingQuote part => s!"Expected quoted {part.name}"
  | unterminated part => s!"Unterminated {part.name}"
  | emptyLiteral => "Empty literal"
  | emptyRegex => "Empty regular expression"
  | invalidRegex => "Invalid regular expression"
  | unknownType name => s!"Unknown annotation type '{name}'"
  | unterminatedTag => "Unterminated annotation matcher"
  | unexpectedInTag c => s!"Unexpected character '{c}' in annotation matcher"
  | invalidExpression place cause => s!"Invalid {place.name} expression: {cause.message}"
  | unterminatedQuantifier => "Unterminated quantifier"
  | invalidQuantifier inner => "Invalid quantifier '\x7b" ++ inner ++ "\x7d'"
  | repeatedQuantifier => "Invalid quantifier: only one quantifier per element"
  | missingColon => "Invalid attribute setter: expected ':' after the expression"
  | missingName => "Invalid attribute setter: missing attribute name"
  | unterminatedSeparator => "Invalid attribute setter: unterminated '['"
  | unterminatedExpression => "Invalid attribute setter: unterminated expression"

end SpanSearch
