import SpanSearch.Expression.Term
import SpanSearch.Offset

/-! # Patterns

A pattern is a sequence of elements. An element is either an atom, which matches tokens, or a
group, which is a sequence or a choice of elements. How often it may occur and which attributes it
sets stand in its suffix.
-/

namespace SpanSearch

/-- How often an element may occur. -/
structure Bounds where
  min : Nat
  max : Nat
  deriving DecidableEq

/-- Just one occurrence. -/
def Bounds.once : Bounds := ⟨1, 1⟩

/-- The maximum of what may occur any number of times. -/
def Bounds.unbounded : Nat := Offset.greatest

/-- How several values of one attribute are combined. -/
inductive Policy where
  /-- The first value stays. -/
  | first
  /-- A later value replaces an earlier one. -/
  | last
  /-- A longer value replaces a shorter one. -/
  | longest
  /-- The values are put together, with this separator or with the one that is configured. -/
  | join (separator : Option String)
  deriving DecidableEq

/-- Sets an attribute to what was matched, or to the value of an expression. -/
structure Setter where
  name : String
  expression : Option Expression
  policy : Policy

/-- What is asked of the value of an attribute. -/
inductive ValueTest where
  /-- Any value will do. -/
  | present
  /-- The value is one of these. -/
  | oneOf (values : List String)
  deriving DecidableEq

/-- A condition on one attribute. -/
structure Constraint where
  name : String
  test : ValueTest
  deriving DecidableEq

/-- Whether a value meets the condition. An absent value never does. -/
def Constraint.accepts (c : Constraint) : Option String → Bool
  | none => false
  | some value =>
    match c.test with
    | .present => true
    | .oneOf values => values.contains value

/-- What is asked of an annotation: its type, conditions on its attributes, and an expression that
has to be true. -/
structure Tag where
  type : String
  constraints : List Constraint
  test : Option Expression

/-- An element that matches tokens. -/
inductive Atom where
  /-- The tokens of a text. -/
  | literal (text : String) (tokens : List String)
  /-- Tokens whose text matches a regular expression. -/
  | regex (source : String)
  /-- The tokens of an annotation. -/
  | tag (tag : Tag)

/-- What follows an element. -/
structure Suffix where
  bounds : Bounds
  setters : List Setter

/-- The suffix of what occurs once and sets nothing. -/
def Suffix.plain : Suffix := ⟨.once, []⟩

/-- A part of a pattern. -/
inductive Element where
  | atom (atom : Atom) (suffix : Suffix)
  /-- All the children in order. -/
  | sequence (children : List Element) (suffix : Suffix)
  /-- One of the branches. -/
  | choice (branches : List Element) (suffix : Suffix)

namespace Element

/-- The suffix of an element. -/
def suffix : Element → Suffix
  | atom _ s => s
  | sequence _ s => s
  | choice _ s => s

/-- How often the element may occur. -/
def bounds (e : Element) : Bounds := e.suffix.bounds

/-- The attributes that the element sets. -/
def setters (e : Element) : List Setter := e.suffix.setters

/-- Whether the element occurs once and sets nothing. -/
def isPlain (e : Element) : Bool := e.bounds == .once && e.setters.isEmpty

mutual

/-- The element and all its descendants, parents before their children. -/
def walk : Element → List Element
  | atom a s => [atom a s]
  | sequence children s => sequence children s :: walkList children
  | choice branches s => choice branches s :: walkList branches

/-- The elements and all their descendants. -/
def walkList : List Element → List Element
  | [] => []
  | e :: rest => e.walk ++ walkList rest

end

end Element

/-- Whether two expressions were parsed from the same text. -/
def Expression.same (a b : Option Expression) : Bool :=
  a.map (·.source) == b.map (·.source)

/-- Whether two setters do the same. -/
def Setter.same (a b : Setter) : Bool :=
  a.name == b.name && a.policy == b.policy && Expression.same a.expression b.expression

/-- Whether two lists are equal, item by item. -/
def sameItems (same : α → α → Bool) : List α → List α → Bool
  | [], [] => true
  | a :: as, b :: bs => same a b && sameItems same as bs
  | _, _ => false

/-- Whether two suffixes do the same. -/
def Suffix.same (a b : Suffix) : Bool :=
  a.bounds == b.bounds && sameItems Setter.same a.setters b.setters

/-- Whether two tags ask the same. -/
def Tag.same (a b : Tag) : Bool :=
  a.type == b.type && a.constraints == b.constraints && Expression.same a.test b.test

/-- Whether two atoms match the same. -/
def Atom.same : Atom → Atom → Bool
  | literal s ts, literal s' ts' => s == s' && ts == ts'
  | regex s, regex s' => s == s'
  | tag t, tag t' => t.same t'
  | _, _ => false

namespace Element

mutual

/-- Whether two elements have the same structure, where expressions count by their text. -/
def same : Element → Element → Bool
  | atom a s, atom b t => a.same b && s.same t
  | sequence as s, sequence bs t => sameList as bs && s.same t
  | choice as s, choice bs t => sameList as bs && s.same t
  | _, _ => false

/-- Whether two lists of elements have the same structure. -/
def sameList : List Element → List Element → Bool
  | [], [] => true
  | a :: as, b :: bs => a.same b && sameList as bs
  | _, _ => false

end

end Element

/-- A compiled pattern: the text it was written as, and its elements in order. -/
structure Pattern where
  source : String
  elements : List Element

namespace Pattern

/-- Whether two patterns have the same elements, however they were written. -/
def same (p q : Pattern) : Bool := Element.sameList p.elements q.elements

/-- The regular expressions in the pattern, each once, in order of first occurrence. -/
def regexes (p : Pattern) : List String :=
  ((Element.walkList p.elements).filterMap fun e =>
    match e with
    | .atom (.regex source) _ => some source
    | _ => none).eraseDups

/-- The annotation types in the pattern, each once, in order of first occurrence. -/
def types (p : Pattern) : List String :=
  ((Element.walkList p.elements).filterMap fun e =>
    match e with
    | .atom (.tag tag) _ => some tag.type
    | _ => none).eraseDups

end Pattern

end SpanSearch
