import SpanSearch.Annotation
import SpanSearch.Pattern.Basic

/-! # Matches

A match is a tree. Its nodes tell which tokens each occurrence of an element covers.
-/

namespace SpanSearch

/-- One occurrence of an element in a match. -/
inductive Occurrence where
  /-- An occurrence of an atom, with the annotation that it matched, if it matched one. -/
  | leaf (element : Element) (start stop : Nat) (matched : Option Annotation)
  /-- An occurrence of a group. -/
  | group (element : Element) (start stop : Nat) (children : List Occurrence)

namespace Occurrence

/-- The element that occurs. -/
def element : Occurrence → Element
  | leaf e .. => e
  | group e .. => e

/-- The offset of the first token. -/
def start : Occurrence → Nat
  | leaf _ start .. => start
  | group _ start .. => start

/-- The offset after the last token. -/
def stop : Occurrence → Nat
  | leaf _ _ stop _ => stop
  | group _ _ stop _ => stop

/-- What the setters of the element are applied to: the annotation that was matched, or else an
annotation without a type over the same tokens. -/
def span : Occurrence → Annotation
  | leaf _ _ _ (some a) => a
  | leaf _ start stop none => .ofSpan "" start (Offset.sub stop start)
  | group _ start stop _ => .ofSpan "" start (Offset.sub stop start)

mutual

/-- The annotations of the leaves, each leaf's being absent if it matched none, in order. -/
def leaves : Occurrence → List (Option Annotation)
  | leaf _ _ _ a => [a]
  | group _ _ _ children => leavesList children

/-- The annotations of the leaves of occurrences in a row. -/
def leavesList : List Occurrence → List (Option Annotation)
  | [] => []
  | o :: rest => o.leaves ++ leavesList rest

end

end Occurrence

/-- A match of a pattern: its occurrences of the elements of the pattern, and the attributes that
they set. -/
structure Match where
  start : Nat
  stop : Nat
  children : List Occurrence
  attributes : Attributes

namespace Match

/-- The number of tokens that a match covers. -/
def size (m : Match) : Nat := Offset.sub m.stop m.start

/-- How many leaves the match has. -/
def leafCount (m : Match) : Nat := (Occurrence.leavesList m.children).length

/-- The annotations that were matched, in order. -/
def annotations (m : Match) : List Annotation :=
  (Occurrence.leavesList m.children).filterMap id

/-- The order of matches: by their starts, and the longer ones first. -/
def precedes (m n : Match) : Bool :=
  m.start < n.start || (m.start == n.start && n.size ≤ m.size)

/-- The match as an annotation of some type. -/
def toAnnotation (type : String) (m : Match) : Annotation :=
  ⟨none, type, m.start, m.size, m.attributes⟩

end Match

end SpanSearch
