import SpanSearch.Index.Forest
import SpanSearch.Index.Observer
import SpanSearch.Search.Find

/-! # Finding patterns with an index

An index provides the annotations that a pattern is matched with. Those of a type are drawn from its
source when the search first looks them up, and types that it never gets to are not drawn.
-/

namespace SpanSearch

open Search

/-- The matches of a pattern among annotations that are looked up, and the types that were. -/
def Search.findAndTypes (config : Config) (tokens : List Token) (annotations : Lookup)
    (interrupted : Nat → Bool) (p : Pattern) : List Match × List String :=
  let scene := Scene.forPattern config tokens annotations p
  let starts := Search.starts tokens interrupted
  (matchesFrom scene p.elements starts, typesWanted scene p.elements starts)

/-- The matches of a pattern among the annotations of an index, and the index after the search. -/
def Index.find (index : Index) (source : Source) (config : Config) (tokens : List Token)
    (interrupted : Nat → Bool) (p : Pattern) : List Match × Index :=
  let ready := index.drawAll source p.types
  let (found, types) :=
    findAndTypes config tokens (fun type start => ready.filed type start) interrupted p
  (found, index.drawAll source types)

/-- The matches of a pattern among the annotations of one of several linked indexes, and these after
the search. -/
def Forest.find (forest : Forest) (i : Nat) (config : Config) (tokens : List Token)
    (interrupted : Nat → Bool) (p : Pattern) : List Match × Forest :=
  let ready := forest.drawAll i p.types
  let (found, types) :=
    findAndTypes config tokens (fun type start => ready.annotations i type start) interrupted p
  (found, forest.drawAll i types)

/-- The matches of a pattern in an observed document, and the observer and the document after the
search. The observer reads the events of the document only if something is looked up. -/
def Observer.find (observer : Observer) (board : Board) (config : Config)
    (interrupted : Nat → Bool) (p : Pattern) : List Match × Observer × Board :=
  let (synced, after) := observer.sync board
  let source := synced.source after
  let ready := synced.index.drawAll source p.types
  let (found, types) :=
    findAndTypes config board.document.tokens (fun type start => ready.filed type start)
      interrupted p
  if types.isEmpty then (found, observer, board)
  else (found, { synced with index := synced.index.drawAll source types }, after)

end SpanSearch
