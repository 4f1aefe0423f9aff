import SpanSearch.Search.Find

/-! # Enumerations

An enumeration is a chain of members with separators between them. It starts with a start element
and goes on with elements. Its last step may also take an end separator or an end element. Chains
are grown by one step in each round, and closed when no longer ones turn up. Of chains that are part
of others only the longest are kept.
-/

namespace SpanSearch.Enumeration

/-- The annotations that enumerations are made of. -/
structure Parts where
  starts : List Annotation
  elements : List Annotation
  separators : List Annotation
  ends : List Annotation
  endSeparators : List Annotation

/-- The type of enumerations. -/
def chainType : String := "enumeration"

/-- The type under which elements are looked up. -/
def elementType : String := "cElement"

/-- The type under which end elements are looked up. -/
def endType : String := "eElement"

/-- The type under which separators are looked up. -/
def separatorType : String := "separator"

/-- The type under which end separators are looked up. -/
def endSeparatorType : String := "endSeparator"

/-- The element that matches an annotation of a type. -/
def tagOf (type : String) : Element := .atom (.tag ⟨type, [], none⟩) .plain

/-- The pattern of one more step of a chain. -/
def stepPattern : Pattern :=
  ⟨"<enumeration> <separator> <cElement>",
    [tagOf chainType, tagOf separatorType, tagOf elementType]⟩

/-- The pattern of the last step of a chain, which may be left out. -/
def lastPattern : Pattern :=
  ⟨"<enumeration> ((<separator>|<endSeparator>) (<cElement>|<eElement>))?",
    [tagOf chainType,
      .sequence
        [.choice [tagOf separatorType, tagOf endSeparatorType] .plain,
          .choice [tagOf elementType, tagOf endType] .plain]
        ⟨⟨0, 1⟩, []⟩]⟩

/-- The identifiers of members. Chains with the same ones count as the same. -/
abbrev Key := List String

/-- The identifiers of some members. -/
def keyOf (members : List Annotation) : Key := members.map (·.identifier)

/-- An annotation from the start of the first member to the end of the last. -/
def spanOf (members : List Annotation) : Annotation :=
  let start := (members.head?.map (·.start)).getD 0
  let stop := (members.getLast?.map (·.stop)).getD start
  .ofSpan chainType start (stop - start)

/-- The annotation that stands for a chain while chains are grown. -/
def standIn (number : Nat) (members : List Annotation) : Annotation :=
  { spanOf members with id := some s!"enumeration.{number}" }

/-- The chains with others added that are not yet among them. -/
def addNew (chains : List (List Annotation)) (others : List (List Annotation)) :
    List (List Annotation) :=
  others.foldl (fun chains members =>
    if chains.any (keyOf · == keyOf members) then chains else chains ++ [members]) chains

/-- The index of the parts that chains are grown with. -/
def partsIndex (parts : Parts) : Index :=
  let addAll := fun (type : String) (annotations : List Annotation) (index : Index) =>
    annotations.foldl (fun index a => (index.add .none type a).2) index
  Index.empty |> addAll elementType parts.elements |> addAll endType parts.ends
    |> addAll separatorType parts.separators |> addAll endSeparatorType parts.endSeparators

/-- The chains from number `first` on with their numbers and stand-ins. -/
def numbered (chains : List (List Annotation)) (first : Nat) : List (Nat × List Annotation) :=
  (chains.zipIdx.map fun (members, number) => (number, members)).drop first

/-- The chains that a pattern makes of those from number `first` on. -/
def stepped (config : Config) (tokens : List Token) (parts : Index) (p : Pattern)
    (chains : List (List Annotation)) (first : Nat) : List (List Annotation) :=
  let index := parts.addAll .none
    ((numbered chains first).map fun (number, members) => standIn number members)
  (Search.find config tokens index.filed (fun _ => false) p).filterMap fun m =>
    match m.annotations with
    | [chain] => membersOf chain
    | [chain, _, element] => (membersOf chain).map (· ++ [element])
    | _ => none
where
  /-- The members of the chain that an annotation stands for. -/
  membersOf (a : Annotation) : Option (List Annotation) :=
    ((numbered chains first).find? fun (number, members) => standIn number members == a).map (·.2)

/-- The chains that have been found after as many rounds, where those from number `first` on came
last. -/
def grow (config : Config) (tokens : List Token) (parts : Index) :
    (rounds : Nat) → (chains : List (List Annotation)) → (first : Nat) → List (List Annotation)
  | 0, chains, _ => chains
  | rounds + 1, chains, first =>
    if chains.length ≤ first then chains
    else
      let grown := addNew chains (stepped config tokens parts stepPattern chains first)
      grow config tokens parts rounds grown chains.length

/-- Whether the one list is a contiguous part of the other. -/
def isWithin (inner : Key) : Key → Bool
  | [] => inner.isEmpty
  | x :: rest => inner.isPrefixOf (x :: rest) || isWithin inner rest

/-- Whether the one list is a contiguous part of the other and shorter. -/
def isPart (inner outer : Key) : Bool := inner.length < outer.length && isWithin inner outer

/-- An enumeration as an annotation that tells its members and their number. -/
def toAnnotation (members : List Annotation) : Annotation :=
  ((spanOf members).set "members" (" ".intercalate (keyOf members))).set "size"
    (toString members.length)

/-- The enumerations that can be assembled from parts in a number of rounds, in document order. -/
def assemble (config : Config) (rounds : Nat) (tokens : List Token) (parts : Parts) :
    List Annotation :=
  let index := partsIndex parts
  let chains := grow config tokens index rounds (addNew [] (parts.starts.map ([·]))) 0
  let closed := addNew [] (stepped config tokens index lastPattern chains 0)
  let longest := closed.filter fun members =>
    !closed.any fun others => isPart (keyOf members) (keyOf others)
  Annotation.sort (longest.map toAnnotation)

end SpanSearch.Enumeration
