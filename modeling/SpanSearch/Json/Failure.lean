/-! # Failures to read JSON

A text may be no JSON, or end too early, or hold a value that does not fit what is read. Such a
value is located by a path through the objects and lists around it.
-/

namespace SpanSearch.Json

/-- A step from a value to one inside of it. -/
inductive Step where
  | key (name : String)
  | index (n : Nat)
  deriving DecidableEq

/-- A way from the top to a value. -/
abbrev Path := List Step

/-- A path as it is written. The empty one is a dot. -/
def Path.text : Path → String
  | [] => "."
  | step :: rest => first step ++ String.join (rest.map next)
where
  /-- The first step. -/
  first : Step → String
    | .key name => name
    | .index n => s!"[{n}]"
  /-- A later step. -/
  next : Step → String
    | .key name => "." ++ name
    | .index n => s!"[{n}]"

/-- Why a text cannot be read. -/
inductive Failure where
  | malformed
  | truncated
  /-- The value at the path does not fit. -/
  | unfit (path : Path)
  deriving DecidableEq

/-- A failure inside of a value, seen from the one around it. -/
def Failure.within (step : Step) : Failure → Failure
  | unfit path => unfit (step :: path)
  | failure => failure

/-- What reads a value from the front of a text, and gives what it leaves. -/
abbrev Reader (α : Type) := List Char → Except Failure (α × List Char)

/-- Reads a value that a step leads to. -/
def Reader.at (step : Step) (read : Reader α) : Reader α := fun cs =>
  match read cs with
  | .ok found => .ok found
  | .error failure => .error (failure.within step)

/-- Reads a value and changes it. -/
def Reader.map (f : α → β) (read : Reader α) : Reader β := fun cs =>
  match read cs with
  | .ok (value, rest) => .ok (f value, rest)
  | .error failure => .error failure

/-- Whether the character is white space between the parts of JSON. -/
def isBlank (c : Char) : Bool := c == ' ' || c == '\n' || c == '\t' || c == '\r'

/-- The text without the white space at its front. -/
def skipBlank (cs : List Char) : List Char := cs.dropWhile isBlank

/-- Reads the given characters. -/
def readWord : List Char → List Char → Except Failure (List Char)
  | [], cs => .ok cs
  | _ :: _, [] => .error .truncated
  | w :: ws, c :: cs => if c == w then readWord ws cs else .error .malformed

end SpanSearch.Json
