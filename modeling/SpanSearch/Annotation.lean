import SpanSearch.Offset
import SpanSearch.Token

/-! # Annotations

An annotation marks a span of tokens with a type and with attributes. Spans may nest and overlap
freely. An annotation of a document has an identifier, one that was found on the way may have none.
-/

namespace SpanSearch

/-- Named values, each a text. -/
abbrev Attributes := Table String

/-- A typed span of `size` tokens from the token `start` on, with attributes. -/
structure Annotation where
  id : Option String
  type : String
  start : Nat
  size : Nat
  attributes : Attributes
  deriving DecidableEq

namespace Annotation

/-- An annotation without identifier and attributes. -/
def ofSpan (type : String) (start size : Nat) : Annotation := ⟨none, type, start, size, .empty⟩

instance : Inhabited Annotation := ⟨ofSpan "" 0 0⟩

/-- The offset after the last token of the span. -/
def stop (a : Annotation) : Nat := Offset.add a.start a.size

/-- What the annotation is compared by: its identifier, or else its type and span. -/
def identifier (a : Annotation) : String :=
  match a.id with
  | some id => id
  | none => s!"{a.type}@{a.start}+{a.size}"

/-- The annotation with an attribute set. -/
def set (a : Annotation) (name value : String) : Annotation :=
  { a with attributes := a.attributes.insert name value }

/-- The text of the span. -/
def text (a : Annotation) (tokens : List Token) : String := Token.textOf tokens a.start a.stop

/-- Whether two annotations have the same span. -/
def sameSpan (a b : Annotation) : Bool := a.start == b.start && a.size == b.size

/-- Whether the span of `b` lies within the span of `a`. -/
def embeds (a b : Annotation) : Bool := a.start ≤ b.start && b.stop ≤ a.stop

/-- The document order: by start, the longer span first, then by type. -/
def order (a b : Annotation) : Ordering :=
  ((compare a.start b.start).then (compare b.size a.size)).then (compare a.type b.type)

/-- The annotations in document order. Those that the order does not tell apart stay as they
are. -/
def sort (annotations : List Annotation) : List Annotation :=
  annotations.mergeSort fun a b => a.order b != .gt

/-- The annotation in one line: its type, and the half-open range of its tokens. -/
def display (a : Annotation) : String := s!"<{a.type}> [{a.start}, {a.stop})"

end Annotation

end SpanSearch
