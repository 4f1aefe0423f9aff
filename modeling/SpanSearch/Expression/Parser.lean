import SpanSearch.Expression.Term

/-! # Parsing expressions

Conjunction binds tighter than disjunction, both to the left, and comparisons do not chain. The
parser for each part of the grammar takes a list of lexemes and gives back what it leaves. The
parsers call one another, and each call has one unit of fuel less; as no more than six calls pass
without a lexeme being taken, eight units for each lexeme are enough.
-/

namespace SpanSearch.Expression

/-- The lexemes of an expression, each with its offset. -/
abbrev Lexemes := List (Lexeme × Nat)

/-- The offset of the first lexeme, or that of the end. -/
def offsetOf (stop : Nat) : Lexemes → Nat
  | [] => stop
  | (_, offset) :: _ => offset

/-- An attempt to parse, which may fail for a cause at an offset. -/
abbrev Attempt := Except (Cause × Nat)

mutual

/-- Parses a disjunction. `stop` is the offset of the end of the expression. -/
def parseEither (stop : Nat) : (fuel : Nat) → Lexemes → Attempt (Term × Lexemes)
  | 0, _ => .error (.unexpectedEnd, stop)
  | fuel + 1, input => do
    let (left, rest) ← parseBoth stop fuel input
    moreEither stop fuel left rest

/-- Parses what follows the first part of a disjunction. -/
def moreEither (stop : Nat) : (fuel : Nat) → Term → Lexemes → Attempt (Term × Lexemes)
  | fuel + 1, left, (.word "or", _) :: rest => do
    let (right, rest) ← parseBoth stop fuel rest
    moreEither stop fuel (.either left right) rest
  | _, left, rest => .ok (left, rest)

/-- Parses a conjunction. -/
def parseBoth (stop : Nat) : (fuel : Nat) → Lexemes → Attempt (Term × Lexemes)
  | 0, _ => .error (.unexpectedEnd, stop)
  | fuel + 1, input => do
    let (left, rest) ← parseCompare stop fuel input
    moreBoth stop fuel left rest

/-- Parses what follows the first part of a conjunction. -/
def moreBoth (stop : Nat) : (fuel : Nat) → Term → Lexemes → Attempt (Term × Lexemes)
  | fuel + 1, left, (.word "and", _) :: rest => do
    let (right, rest) ← parseCompare stop fuel rest
    moreBoth stop fuel (.both left right) rest
  | _, left, rest => .ok (left, rest)

/-- Parses one comparison, or a primary term by itself. -/
def parseCompare (stop : Nat) : (fuel : Nat) → Lexemes → Attempt (Term × Lexemes)
  | 0, _ => .error (.unexpectedEnd, stop)
  | fuel + 1, input => do
    let (left, rest) ← parsePrimary stop fuel input
    match rest with
    | (.comparison op, _) :: rest =>
      let (right, rest) ← parsePrimary stop fuel rest
      .ok (.compare op left right, rest)
    | rest => .ok (left, rest)

/-- Parses a constant, an attribute, a variable, a term in parentheses or a call. -/
def parsePrimary (stop : Nat) : (fuel : Nat) → Lexemes → Attempt (Term × Lexemes)
  | 0, _ => .error (.unexpectedEnd, stop)
  | _ + 1, [] => .error (.unexpectedEnd, stop)
  | fuel + 1, (lexeme, offset) :: rest =>
    match lexeme with
    | .literal text => .ok (.constant (.text text), rest)
    | .number x => .ok (.constant (.number x), rest)
    | .attr name => .ok (.attr name, rest)
    | .var name =>
      match Variable.ofName? name with
      | some v => .ok (.var v, rest)
      | none => .error (.unknownVariable name, offset)
    | .openParen => do
      let (inner, rest) ← parseEither stop fuel rest
      match rest with
      | (.closeParen, _) :: rest => .ok (inner, rest)
      | _ => .error (.unbalanced, offset)
    | .word name =>
      match Function.ofName? name, rest with
      | none, _ => .error (.unknownFunction name, offset)
      | some f, (.openParen, _) :: rest => do
        let (arguments, rest) ← parseArguments stop name fuel rest
        if f.takes arguments.length then .ok (.call f arguments, rest)
        else .error (.wrongCount name arguments.length, offset)
      | some _, _ => .error (.missingOpen name, offset)
    | lexeme => .error (.unexpected lexeme, offset)

/-- Parses the arguments of a call after the opening parenthesis, and the closing one. -/
def parseArguments (stop : Nat) (name : String) :
    (fuel : Nat) → Lexemes → Attempt (List Term × Lexemes)
  | 0, _ => .error (.unexpectedEnd, stop)
  | _ + 1, (.closeParen, _) :: rest => .ok ([], rest)
  | fuel + 1, input => moreArguments stop name fuel input

/-- Parses one argument or several, and the closing parenthesis. -/
def moreArguments (stop : Nat) (name : String) :
    (fuel : Nat) → Lexemes → Attempt (List Term × Lexemes)
  | 0, _ => .error (.unexpectedEnd, stop)
  | fuel + 1, input => do
    let (first, rest) ← parseEither stop fuel input
    match rest with
    | (.closeParen, _) :: rest => .ok ([first], rest)
    | (.comma, _) :: rest =>
      let (others, rest) ← moreArguments stop name fuel rest
      .ok (first :: others, rest)
    | rest => .error (.missingSeparator name, offsetOf stop (rest.drop 1))

end

/-- The term that all the lexemes make up. -/
def Term.ofLexemes (stop : Nat) (input : Lexemes) : Attempt Term := do
  let (term, rest) ← parseEither stop (8 * (input.length + 1)) input
  match rest with
  | (lexeme, offset) :: _ => .error (.trailing lexeme, offset)
  | [] => .ok term

/-- The term that a text writes, or why it writes none and where. -/
def Term.parse (source : String) : Attempt Term := do
  let lexemes ← Lexeme.scan 0 source.toList
  Term.ofLexemes source.length lexemes

end SpanSearch.Expression
