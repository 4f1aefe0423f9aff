import SpanSearch.Index.Basic

/-! # Linked indexes

An index may have a parent, in which it also looks annotations up. Its own annotations hide those
of the parent that have the same span. Several indexes may share a parent.
-/

namespace SpanSearch

/-- An index with its source and its parent. -/
structure Forest.Node where
  index : Index
  source : Source
  /-- The number of the parent. -/
  parent? : Option Nat

/-- Indexes that are numbered from zero on. A parent has a lower number than its children. -/
structure Forest where
  nodes : List Forest.Node

namespace Forest

/-- The forest without indexes. -/
def empty : Forest := ⟨[]⟩

/-- The forest with one more index, and its number. -/
def grow (forest : Forest) (source : Source) (parent? : Option Nat) : Nat × Forest :=
  (forest.nodes.length, ⟨forest.nodes ++ [⟨.empty, source, parent?⟩]⟩)

/-- The index with a number. -/
def index (forest : Forest) (i : Nat) : Index := (forest.nodes[i]?.map (·.index)).getD .empty

/-- The forest with an index put in the place of another. -/
def setIndex (forest : Forest) (i : Nat) (index : Index) : Forest :=
  ⟨forest.nodes.modify i fun node => { node with index := index }⟩

/-- An index and its ancestors, as far as they are linked. -/
def chain (forest : Forest) (i : Nat) : List (Nat × Node) :=
  match forest.nodes[i]? with
  | none => []
  | some node =>
    match node.parent? with
    | none => [(i, node)]
    | some parent => if parent < i then (i, node) :: forest.chain parent else [(i, node)]
termination_by i

/-- The annotations of a type at a start in indexes of which each is the parent of the one before
it. A disposed index has none, and is not linked. -/
def annotationsIn (type : String) (start : Nat) : List (Nat × Node) → List Annotation
  | [] => []
  | (_, node) :: ancestors =>
    if node.index.disposed then []
    else
      let own := node.index.annotations node.source type start
      own ++ (annotationsIn type start ancestors).filter fun a => !own.any (·.size == a.size)

/-- The annotations that an index finds for a type at a start. -/
def annotations (forest : Forest) (i : Nat) (type : String) (start : Nat) : List Annotation :=
  annotationsIn type start (forest.chain i)

/-- The forest in which an index and its ancestors have drawn the annotations of a type from their
sources. -/
def draw (forest : Forest) (i : Nat) (type : String) : Forest :=
  ⟨(forest.chain i).foldl
    (fun nodes (j, _) =>
      nodes.modify j fun node => { node with index := node.index.draw node.source type })
    forest.nodes⟩

/-- The forest in which an index and its ancestors have drawn the annotations of several types. -/
def drawAll (forest : Forest) (i : Nat) (types : List String) : Forest :=
  types.foldl (fun forest type => forest.draw i type) forest

/-- The types of the annotations that an index finds, in ascending order. -/
def types (forest : Forest) (i : Nat) : List String :=
  (TextSet.ofTexts ((forest.chain i).flatMap fun (_, node) => node.index.types node.source)).keys

/-- Changes one index by itself, without regard to its ancestors. -/
def update (forest : Forest) (i : Nat) (change : Index → Source → α × Index) (default : α) :
    α × Forest :=
  match forest.nodes[i]? with
  | none => (default, forest)
  | some node =>
    let (answer, index) := change node.index node.source
    (answer, forest.setIndex i index)

/-- Disposes an index and takes its link to its parent away and, if the disposal cascades, does the
same with all its ancestors. -/
def dispose (forest : Forest) (i : Nat) (cascade : Bool) : Forest :=
  let disposed := if cascade then (forest.chain i).map (·.1) else [i]
  ⟨disposed.foldl (fun nodes j =>
    nodes.modify j fun node => { node with index := node.index.dispose, parent? := none })
    forest.nodes⟩

end Forest

end SpanSearch
