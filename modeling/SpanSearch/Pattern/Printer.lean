import SpanSearch.Pattern.Basic
import SpanSearch.Pattern.Quoted

/-! # Printing patterns

Every pattern has one canonical text, which compiles to the same elements again. In it, elements
stand apart by one blank, and a branch of several elements has no parentheses of its own.
-/

namespace SpanSearch

/-- The quantifier of bounds. -/
def Bounds.print (b : Bounds) : String :=
  if b == .once then ""
  else if b == ⟨0, 1⟩ then "?"
  else if b == ⟨0, Bounds.unbounded⟩ then "*"
  else if b == ⟨1, Bounds.unbounded⟩ then "+"
  else if b.max == Bounds.unbounded then "\x7b" ++ toString b.min ++ ",\x7d"
  else if b.min == b.max then "\x7b" ++ toString b.min ++ "\x7d"
  else "\x7b" ++ toString b.min ++ "," ++ toString b.max ++ "\x7d"

namespace Pattern

/-- A text between quotes. -/
def quoted (strict : Bool) (quote : Char) (text : String) : List Char :=
  quote :: Quoted.escape strict quote text.toList ++ [quote]

/-- The separator of a setter, with a backslash before every closing bracket. -/
def printSeparator (separator : String) : List Char :=
  separator.toList.flatMap fun c => if c == ']' then ['\\', ']'] else [c]

/-- What stands in the brackets of a setter. -/
def printPolicy : Policy → List Char
  | .join none => []
  | .first => "[f]".toList
  | .last => "[l]".toList
  | .longest => "[m]".toList
  | .join (some separator) => '[' :: printSeparator separator ++ [']']

/-- A setter as it is written. -/
def printSetter (s : Setter) : List Char :=
  let target := s.name.toList ++ printPolicy s.policy
  match s.expression with
  | none => '@' :: target
  | some e => "@(".toList ++ e.source.toList ++ "):".toList ++ target

/-- What follows an element, as it is written. -/
def printSuffix (s : Suffix) : List Char :=
  s.bounds.print.toList ++ s.setters.flatMap printSetter

/-- The value of an attribute that asks for something. -/
def printTest : ValueTest → String
  | .present => "*"
  | .oneOf [value] => value
  | .oneOf values => "(" ++ "|".intercalate values ++ ")"

/-- An attribute of a tag, after a blank. -/
def printAttribute (name value : String) : List Char :=
  ' ' :: name.toList ++ '=' :: quoted false '"' value

/-- A tag as it is written, with its test last. -/
def printTag (t : Tag) : List Char :=
  '<' :: t.type.toList ++ t.constraints.flatMap (fun c => printAttribute c.name (printTest c.test))
    ++ (t.test.map fun e => printAttribute "test" e.source).getD [] ++ ['>']

/-- An atom as it is written. -/
def printAtom : Atom → List Char
  | .literal text _ => quoted true '\'' text
  | .regex source => quoted false '"' source
  | .tag t => printTag t

mutual

/-- An element as it is written. -/
def printElement : Element → List Char
  | .atom a s => printAtom a ++ printSuffix s
  | .sequence children s => '(' :: printElements children ++ ')' :: printSuffix s
  | .choice branches s => '(' :: printBranches branches ++ ')' :: printSuffix s

/-- Elements in a row, with blanks between them. -/
def printElements : List Element → List Char
  | [] => []
  | [e] => printElement e
  | e :: rest => printElement e ++ ' ' :: printElements rest

/-- Branches in a row, with bars between them. -/
def printBranches : List Element → List Char
  | [] => []
  | [e] => printBranch e
  | e :: rest => printBranch e ++ '|' :: printBranches rest

/-- A branch: the elements of a plain sequence, or else the element. -/
def printBranch : Element → List Char
  | .sequence children s =>
    if (Element.sequence children s).isPlain then printElements children
    else '(' :: printElements children ++ ')' :: printSuffix s
  | e => printElement e

end

end Pattern

/-- The canonical text of an element. -/
def Element.display (e : Element) : String := String.ofList (Pattern.printElement e)

/-- The canonical text of a pattern. -/
def Pattern.display (p : Pattern) : String := String.ofList (printElements p.elements)

end SpanSearch
