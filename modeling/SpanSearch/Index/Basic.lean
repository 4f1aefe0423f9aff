import SpanSearch.Annotation

/-! # Indexes of annotations

An index files annotations under types and finds them by their type and start. Under one type and
start it holds one annotation of each size, the first that was filed. It may be built over a source,
from which it draws the annotations of a type when that type is first asked for.
-/

namespace SpanSearch

/-- Something that provides annotations by type. -/
structure Source where
  ofType : String → List Annotation
  /-- The types, in ascending order. -/
  types : List String

namespace Source

/-- The source that has no annotations. -/
def none : Source := ⟨fun _ => [], []⟩

/-- The source of the annotations of a list, in its order. -/
def ofList (annotations : List Annotation) : Source where
  ofType type := annotations.filter (·.type == type)
  types := (TextSet.ofTexts (annotations.map (·.type))).keys

end Source

/-- Annotations filed under types. -/
structure Index where
  /-- What is filed, each under a type, in the order in which it was. -/
  entries : List (String × Annotation)
  /-- The types whose annotations were drawn from the source. -/
  drawn : List String
  /-- A disposed index is empty and stays so. -/
  disposed : Bool

namespace Index

/-- The index in which nothing is filed. -/
def empty : Index := ⟨[], [], false⟩

instance : Inhabited Index := ⟨empty⟩

/-- What is filed under a type at a start. -/
def filed (index : Index) (type : String) (start : Nat) : List Annotation :=
  (index.entries.filter fun (t, a) => t == type && a.start == start).map (·.2)

/-- Whether an annotation of the same span is filed under a type. -/
def taken (index : Index) (type : String) (a : Annotation) : Bool :=
  index.entries.any fun (t, b) => t == type && a.sameSpan b

/-- Files an annotation under a type, unless one of the same span is filed there. -/
def file (index : Index) (type : String) (a : Annotation) : Index :=
  if index.taken type a then index else { index with entries := index.entries ++ [(type, a)] }

/-- Files several annotations under a type. -/
def fileAll (index : Index) (type : String) (annotations : List Annotation) : Index :=
  annotations.foldl (·.file type) index

/-- Draws the annotations of a type from the source, unless that was done before. -/
def draw (index : Index) (source : Source) (type : String) : Index :=
  if index.disposed || index.drawn.contains type then index
  else { index with drawn := type :: index.drawn }.fileAll type (source.ofType type)

/-- Draws the annotations of several types. -/
def drawAll (index : Index) (source : Source) (types : List String) : Index :=
  types.foldl (fun index type => index.draw source type) index

/-- Adds an annotation under a type, and tells whether it was filed. -/
def add (index : Index) (source : Source) (type : String) (a : Annotation) : Bool × Index :=
  let index := index.draw source type
  if index.disposed || index.taken type a then (false, index) else (true, index.file type a)

/-- Adds several annotations, each under its type. -/
def addAll (index : Index) (source : Source) (annotations : List Annotation) : Index :=
  annotations.foldl (fun index a => (index.add source a.type a).2) index

/-- Whether what is filed under a type is the annotation, to judge by its identifier and span. -/
def isFiling (type : String) (a : Annotation) (entry : String × Annotation) : Bool :=
  entry.1 == type && a.sameSpan entry.2 && entry.2.identifier == a.identifier

/-- Takes an annotation out from under a type, and tells whether it was there. -/
def withdraw (index : Index) (type : String) (a : Annotation) : Bool × Index :=
  (index.entries.any (isFiling type a),
    { index with entries := index.entries.eraseP (isFiling type a) })

/-- Removes an annotation from under a type, and tells whether it was there. -/
def remove (index : Index) (source : Source) (type : String) (a : Annotation) : Bool × Index :=
  (index.draw source type).withdraw type a

/-- Adds several annotations under one type. -/
def addAllAs (index : Index) (source : Source) (type : String) (annotations : List Annotation) :
    Index :=
  annotations.foldl (fun index a => (index.add source type a).2) index

/-- Removes several annotations, each from under its type, and counts those that were there. -/
def removeAll (index : Index) (source : Source) : List Annotation → Nat × Index
  | [] => (0, index)
  | a :: annotations =>
    let (removed, index) := index.remove source a.type a
    let (count, index) := index.removeAll source annotations
    (if removed then count + 1 else count, index)

/-- The annotations of a type at a start. -/
def annotations (index : Index) (source : Source) (type : String) (start : Nat) : List Annotation :=
  (index.draw source type).filed type start

/-- The types under which something is filed or that the source has, in ascending order. -/
def types (index : Index) (source : Source) : List String :=
  if index.disposed then []
  else (TextSet.ofTexts (index.entries.map (·.1) ++ source.types)).keys

/-- How many annotations are filed. -/
def size (index : Index) : Nat := index.entries.length

/-- The index when it is disposed. -/
def dispose (_ : Index) : Index := ⟨[], [], true⟩

/-- The index with nothing filed and nothing drawn. -/
def clear (index : Index) : Index := { index with entries := [], drawn := [] }

/-- The index of the annotations of a list. -/
def ofList (annotations : List Annotation) : Index := empty.addAll .none annotations

end Index

end SpanSearch
