import SpanSearch.Number.Read
import SpanSearch.Number.Shortest
import SpanSearch.Unicode.Letter
import SpanSearch.Unicode.Space

/-! # Lexemes of expressions

The pieces an expression is written with, and how a text is cut into them. Errors are reported
where the piece begins that could not be read.
-/

namespace SpanSearch

/-- The characters of names: alphanumeric ones and a few marks. -/
def isNameChar (c : Char) : Bool :=
  Unicode.isAlphanumeric c || c == '_' || c == '-' || c == '.' || c == ':'

namespace Expression

open Number

/-- The comparison operators. -/
inductive Comparison where
  | equal | notEqual | less | lessEqual | greater | greaterEqual
  deriving DecidableEq

/-- How a comparison is written. -/
def Comparison.text : Comparison → String
  | equal => "="
  | notEqual => "!="
  | less => "<"
  | lessEqual => "<="
  | greater => ">"
  | greaterEqual => ">="

/-- Whether two things in the given order compare in this way. -/
def Comparison.holds : Comparison → Ordering → Bool
  | equal, o => o.isEq
  | notEqual, o => o.isNe
  | less, o => o.isLT
  | lessEqual, o => o.isLE
  | greater, o => o.isGT
  | greaterEqual, o => o.isGE

/-- A piece of an expression. -/
inductive Lexeme where
  | attr (name : String)
  | var (name : String)
  | word (text : String)
  | literal (text : String)
  | number (x : Binary64)
  | comparison (op : Comparison)
  | openParen
  | closeParen
  | comma
  deriving DecidableEq

/-- How a lexeme is shown in a message. -/
def Lexeme.text : Lexeme → String
  | attr name => "@" ++ name
  | var name => "$" ++ name
  | word text => text
  | literal text => "'" ++ text ++ "'"
  | number x => x.text
  | comparison op => op.text
  | openParen => "("
  | closeParen => ")"
  | comma => ","

/-- Why an expression is malformed. -/
inductive Cause where
  | loneBang
  | unterminatedText
  | missingName (mark : Char)
  | invalidNumber (text : String)
  | unexpectedCharacter (c : Char)
  | trailing (lexeme : Lexeme)
  | unknownVariable (name : String)
  | unknownFunction (name : String)
  | missingOpen (name : String)
  | missingSeparator (name : String)
  | wrongCount (name : String) (count : Nat)
  | unexpected (lexeme : Lexeme)
  | unexpectedEnd
  | unbalanced
  deriving DecidableEq

/-- The wording of a cause. -/
def Cause.message : Cause → String
  | loneBang => "Expected '=' after '!'"
  | unterminatedText => "Unterminated string literal"
  | missingName mark => s!"Expected a name after '{mark}'"
  | invalidNumber text => s!"Invalid number '{text}'"
  | unexpectedCharacter c => s!"Unexpected character '{c}'"
  | trailing lexeme => s!"Unexpected '{lexeme.text}' after end of expression"
  | unknownVariable name => s!"Unknown variable '${name}'"
  | unknownFunction name => s!"Unknown function '{name}'"
  | missingOpen name => s!"Expected '(' after function name '{name}'"
  | missingSeparator name => s!"Expected ',' or ')' in arguments of '{name}'"
  | wrongCount name count => s!"Function '{name}' does not take {count} argument(s)"
  | unexpected lexeme => s!"Unexpected '{lexeme.text}'"
  | unexpectedEnd => "Unexpected end of expression"
  | unbalanced => "Unbalanced parenthesis"

namespace Lexeme

/-- Reads a text up to the closing quote. A backslash before a quote of the same kind makes it part
of the text, any other backslash stands for itself. -/
def takeText (quote : Char) : List Char → Option (List Char × List Char)
  | [] => none
  | [c] => if c == quote then some ([], []) else none
  | c :: d :: rest =>
    if c == '\\' && d == quote then
      (takeText quote rest).map fun (text, rest) => (quote :: text, rest)
    else if c == quote then some ([], d :: rest)
    else (takeText quote (d :: rest)).map fun (text, rest) => (c :: text, rest)

theorem takeText_length {quote : Char} {cs text rest : List Char}
    (h : takeText quote cs = some (text, rest)) : rest.length ≤ cs.length := by
  fun_induction takeText quote cs generalizing text with
  | case1 => simp at h
  | case2 => simp_all
  | case3 => simp at h
  | case4 c d tail _ ih =>
    obtain ⟨⟨t, r⟩, ht, heq⟩ := Option.map_eq_some_iff.1 h
    obtain ⟨-, rfl⟩ := Prod.mk.inj heq
    exact Nat.le_trans (ih ht) (by simp only [List.length_cons]; omega)
  | case5 => simp_all
  | case6 c d tail _ _ ih =>
    obtain ⟨⟨t, r⟩, ht, heq⟩ := Option.map_eq_some_iff.1 h
    obtain ⟨-, rfl⟩ := Prod.mk.inj heq
    exact Nat.le_trans (ih ht) (by simp)

/-- The characters that numbers are written with. -/
def isNumberChar (c : Char) : Bool := isDigit c || c == '.'

/-- Reads the lexeme that starts with `c`, which is not white space. -/
def take (c : Char) (cs : List Char) : Except Cause (Lexeme × List Char) :=
  let orEqual (withEqual without : Lexeme) : Lexeme × List Char :=
    match cs with
    | '=' :: rest => (withEqual, rest)
    | _ => (without, cs)
  let name := cs.takeWhile isNameChar
  let afterName := cs.dropWhile isNameChar
  match c with
  | '(' => .ok (openParen, cs)
  | ')' => .ok (closeParen, cs)
  | ',' => .ok (comma, cs)
  | '=' => .ok (comparison .equal, cs)
  | '!' =>
    match cs with
    | '=' :: rest => .ok (comparison .notEqual, rest)
    | _ => .error .loneBang
  | '<' => .ok (orEqual (comparison .lessEqual) (comparison .less))
  | '>' => .ok (orEqual (comparison .greaterEqual) (comparison .greater))
  | '@' =>
    if name.isEmpty then .error (.missingName c) else .ok (attr (String.ofList name), afterName)
  | '$' =>
    if name.isEmpty then .error (.missingName c) else .ok (var (String.ofList name), afterName)
  | _ =>
    if c == '\'' || c == '"' then
      match takeText c cs with
      | some (text, rest) => .ok (literal (String.ofList text), rest)
      | none => .error .unterminatedText
    else if isDigit c then
      let digits := c :: cs.takeWhile isNumberChar
      match read? digits with
      | some x => .ok (number x, cs.dropWhile isNumberChar)
      | none => .error (.invalidNumber (String.ofList digits))
    else if Unicode.isAlphabetic c || c == '_' then
      .ok (word (String.ofList (c :: name)), afterName)
    else .error (.unexpectedCharacter c)

theorem take_length {c : Char} {cs rest : List Char} {lexeme : Lexeme}
    (h : take c cs = .ok (lexeme, rest)) : rest.length ≤ cs.length := by
  have drop (p : Char → Bool) : (cs.dropWhile p).length ≤ cs.length :=
    (List.dropWhile_suffix p).length_le
  unfold take at h
  grind [→ takeText_length]

/-- The lexemes of a text, each with its offset. `offset` is that of the first character. -/
def scan (offset : Nat) (cs : List Char) : Except (Cause × Nat) (List (Lexeme × Nat)) :=
  match cs with
  | [] => .ok []
  | c :: rest =>
    if Unicode.isSpace c then scan (offset + 1) rest
    else
      match _h : take c rest with
      | .error cause => .error (cause, offset)
      | .ok (lexeme, after) =>
        (scan (offset + (rest.length + 1 - after.length)) after).map ((lexeme, offset) :: ·)
termination_by cs.length
decreasing_by
  · simp
  · have := take_length _h
    simp only [List.length_cons]
    omega

theorem scan_nil (offset : Nat) : scan offset [] = .ok [] := by rw [scan]

theorem scan_cons (offset : Nat) (c : Char) (rest : List Char) :
    scan offset (c :: rest) =
      if Unicode.isSpace c then scan (offset + 1) rest
      else
        match take c rest with
        | .error cause => .error (cause, offset)
        | .ok (lexeme, after) =>
          (scan (offset + (rest.length + 1 - after.length)) after).map ((lexeme, offset) :: ·) := by
  rw [scan]
  split
  · rfl
  · split <;> simp_all

end Lexeme

end Expression

end SpanSearch
