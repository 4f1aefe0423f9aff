import SpanSearch.Document.Basic
import SpanSearch.Literals
import SpanSearch.Pattern.Parser
import SpanSearch.Search.Explore

/-! # Finding patterns

A pattern is searched for at every token. Matches come in the order of their starts, the longer ones
first, and those of the same span in the order in which they are found.
-/

namespace SpanSearch.Search

/-- A way to look up the annotations of a type at an offset. -/
abbrev Lookup := String → Nat → List Annotation

/-- The scene in which a pattern is searched for. -/
def Scene.forPattern (config : Config) (tokens : List Token) (annotations : Lookup) (p : Pattern) :
    Scene :=
  let literals := Literals.ofPattern config tokens p
  ⟨tokens, literals.spansAt, annotations, config.separator⟩

/-- The offsets at which the search starts. It ends at the first where it is interrupted. -/
def starts (tokens : List Token) (interrupted : Nat → Bool) : List Nat :=
  (List.range tokens.length).takeWhile (!interrupted ·)

/-- The matches of elements in a row that start at some offsets. -/
def matchesFrom (scene : Scene) (elements : List Element) (starts : List Nat) : List Match :=
  (starts.flatMap (matchesAt scene elements)).mergeSort Match.precedes

/-- The matches of a pattern. -/
def find (config : Config) (tokens : List Token) (annotations : Lookup)
    (interrupted : Nat → Bool) (p : Pattern) : List Match :=
  matchesFrom (.forPattern config tokens annotations p) p.elements (starts tokens interrupted)

/-- Matches as annotations of a type, without those that are equal to earlier ones. -/
def toAnnotations (type : String) (found : List Match) : List Annotation :=
  (found.map (Match.toAnnotation type)).eraseDups

/-- The annotations that a pattern finds in a document among the annotations of that document. -/
def annotationsIn (config : Config) (engine : Expression.Engine) (source type : String)
    (d : Document) : Except Pattern.Fault (List Annotation) :=
  let index := Index.ofList d.annotations
  (Pattern.compile ⟨d.tokenizer, engine, none⟩ source).map fun p =>
    toAnnotations type (find config d.tokens index.filed (fun _ => false) p)

/-- The annotations that a pattern finds in each of several documents. -/
def annotationsInAll (config : Config) (engine : Expression.Engine) (source type : String)
    (documents : List Document) : Except Pattern.Fault (List (List Annotation)) :=
  documents.mapM (annotationsIn config engine source type)

end SpanSearch.Search
