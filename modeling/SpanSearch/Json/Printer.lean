import SpanSearch.Json.Text

/-! # Writing JSON

Values are written on one line without white space, or over several lines that are indented by two
blanks for each level.
-/

namespace SpanSearch.Json

/-- What JSON can be written of. The members of an object stay in their order. -/
inductive Tree where
  | bool (b : Bool)
  | number (n : Nat)
  | text (s : String)
  | list (items : List Tree)
  | object (members : List (String × Tree))

namespace Tree

/-- A plain value as it is written. -/
def printBool (b : Bool) : List Char := if b then "true".toList else "false".toList

/-- A number as it is written. -/
def printNumber (n : Nat) : List Char := (toString n).toList

mutual

/-- A value on one line. -/
def printCompact : Tree → List Char
  | bool b => printBool b
  | number n => printNumber n
  | text s => quote s
  | list items => '[' :: printItems items ++ [']']
  | object members => '{' :: printMembers members ++ ['}']

/-- The items of a list on one line. -/
def printItems : List Tree → List Char
  | [] => []
  | [item] => printCompact item
  | item :: rest => printCompact item ++ ',' :: printItems rest

/-- The members of an object on one line. -/
def printMembers : List (String × Tree) → List Char
  | [] => []
  | [(key, value)] => quote key ++ ':' :: printCompact value
  | (key, value) :: rest => quote key ++ ':' :: printCompact value ++ ',' :: printMembers rest

end

/-- The start of a line at a depth. -/
def newLine (depth : Nat) : List Char := '\n' :: List.replicate (2 * depth) ' '

mutual

/-- A value over several lines, where lists and objects end at a depth. -/
def printPretty (depth : Nat) : Tree → List Char
  | bool b => printBool b
  | number n => printNumber n
  | text s => quote s
  | list [] => ['[', ']']
  | list items => '[' :: printItemLines (depth + 1) items ++ newLine depth ++ [']']
  | object [] => ['{', '}']
  | object members => '{' :: printMemberLines (depth + 1) members ++ newLine depth ++ ['}']

/-- The items of a list, each on a line of its own. -/
def printItemLines (depth : Nat) : List Tree → List Char
  | [] => []
  | [item] => newLine depth ++ printPretty depth item
  | item :: rest => newLine depth ++ printPretty depth item ++ ',' :: printItemLines depth rest

/-- The members of an object, each on a line of its own. -/
def printMemberLines (depth : Nat) : List (String × Tree) → List Char
  | [] => []
  | [(key, value)] => newLine depth ++ quote key ++ ':' :: ' ' :: printPretty depth value
  | (key, value) :: rest =>
    newLine depth ++ quote key ++ ':' :: ' ' :: printPretty depth value
      ++ ',' :: printMemberLines depth rest

end

/-- The text of a value, on one line or over several. -/
def render (compact : Bool) (tree : Tree) : String :=
  String.ofList (if compact then tree.printCompact else tree.printPretty 0)

end Tree

end SpanSearch.Json
