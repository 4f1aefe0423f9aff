import SpanSearch.Attributes
import SpanSearch.Search.Match

/-! # The states of a search

A state of the search for a pattern is what has been matched so far and what remains to be matched.
Its successors are the ways to go on, those that are preferred first: going on to the next element
comes before one more occurrence of the present one, and candidates and branches are taken in their
order.
-/

namespace SpanSearch.Search

/-- What a pattern is searched for in. -/
structure Scene where
  tokens : List Token
  /-- The spans of a regular expression at an offset. -/
  spans : String → Nat → List Annotation
  /-- The annotations of a type at an offset. -/
  annotations : String → Nat → List Annotation
  /-- What stands between joined values of attributes where a setter does not say so. -/
  separator : String

/-- Something that remains to be matched. -/
inductive Goal where
  /-- Elements in a row, of which the first has occurred `count` times already. -/
  | row (elements : List Element) (count : Nat)
  /-- The end of an occurrence of the group `element` that started at `start` and has `count`
  others before it. The nodes `before` it belong to the group around it. -/
  | close (element : Element) (count start : Nat) (before : List Occurrence)

/-- A place in the search. -/
structure State where
  /-- What remains to be matched, the next first. -/
  goals : List Goal
  /-- Where it has to be matched. -/
  offset : Nat
  /-- The nodes of the innermost group that is open, the last first. -/
  nodes : List Occurrence
  /-- The attributes that were set on the way. -/
  attributes : Attributes

/-- The place where the search for a pattern starts at an offset. -/
def State.initial (elements : List Element) (offset : Nat) : State :=
  ⟨[.row elements 0], offset, [], .empty⟩

/-- Whether an annotation meets what a tag asks. A test that has no value is not met. -/
def Scene.accepts (scene : Scene) (tag : Tag) (a : Annotation) : Bool :=
  tag.constraints.all (fun c => c.accepts (a.attributes.get? c.name))
    && tag.test.all fun e =>
      match e.eval scene.tokens a with
      | .ok value => value.isTruthy
      | .error _ => false

/-- The offsets where an atom may end that starts at an offset, each with what it matches. An
annotation has one token at least. -/
def Scene.ends (scene : Scene) (offset : Nat) : Atom → List (Nat × Option Annotation)
  | .literal _ texts =>
    if ((scene.tokens.drop offset).take texts.length).map (·.text) == texts then
      [(offset + texts.length, none)]
    else []
  | .regex source => (scene.spans source offset).map fun a => (a.stop, some a)
  | .tag tag =>
    ((scene.annotations tag.type offset).filter fun a => 0 < a.size && scene.accepts tag a).map
      fun a => (a.stop, some a)

/-- The leaves for an atom at an offset. -/
def Scene.leaves (scene : Scene) (element : Element) (a : Atom) (offset : Nat) : List Occurrence :=
  (scene.ends offset a).map fun (stop, annotation) => .leaf element offset stop annotation

/-- The state with one more node in the innermost group, whose setters apply. -/
def State.push (scene : Scene) (node : Occurrence) (s : State) : State :=
  { s with
    offset := node.stop
    nodes := node :: s.nodes
    attributes :=
      Setter.applyAll node.element.setters scene.tokens scene.separator node.span s.attributes }

/-- The state in which an occurrence of a group has been opened that consists of the elements
`children` and has `count` others before it. -/
def State.enter (element : Element) (count : Nat) (children : List Element) (s : State) : State :=
  { s with
    goals := .row children 0 :: .close element count s.offset s.nodes :: s.goals
    nodes := [] }

/-- The ways in which an element may occur once more, after `count` occurrences. -/
def occur (scene : Scene) (e : Element) (count : Nat) (s : State) : List State :=
  match e with
  | .atom a _ => (scene.leaves e a s.offset).map fun node => s.push scene node
  | .sequence children _ => [s.enter e count children]
  | .choice branches _ => branches.map fun branch => s.enter e count [branch]

/-- The ways to go on. An occurrence of a group without tokens counts only as long as occurrences
are lacking. -/
def successors (scene : Scene) (s : State) : List State :=
  match s.goals with
  | [] => []
  | .row [] _ :: goals => [{ s with goals := goals }]
  | .row (e :: es) count :: goals =>
    (if e.bounds.min ≤ count then [{ s with goals := .row es 0 :: goals }] else [])
      ++ if count < e.bounds.max then
        occur scene e count { s with goals := .row (e :: es) (count + 1) :: goals }
      else []
  | .close e count start before :: goals =>
    if s.offset = start ∧ e.bounds.min ≤ count then []
    else
      let node := .group e start s.offset s.nodes.reverse
      [{ s with goals := goals, nodes := before }.push scene node]

end SpanSearch.Search
