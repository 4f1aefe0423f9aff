import SpanSearch.Document.Feed

/-! # Observers

An observer keeps an index of a document up to date. It reads the events of the document whenever
it is asked something. Where an annotation leaves the index, another one of the same span may take
its place, which is then drawn from the document again.
-/

namespace SpanSearch

namespace Index

/-- Draws the annotations of a type that start at an offset once more. -/
def refill (index : Index) (source : Source) (type : String) (start : Nat) : Index :=
  index.fileAll type ((source.ofType type).filter (·.start == start))

/-- Takes an annotation out from under a type. If it was there, others may take its place. -/
def withdrawAndRefill (index : Index) (source : Source) (type : String) (a : Annotation) : Index :=
  match index.withdraw type a with
  | (true, index) => index.refill source type a.start
  | (false, index) => index

/-- The index after an event of the document that is its source. Types that were not drawn yet are
left alone. -/
def patch (index : Index) (source : Source) : Event → Index
  | .tokens => index.clear
  | .added a => if index.drawn.contains a.type then index.file a.type a else index
  | .removed a =>
    if index.drawn.contains a.type then index.withdrawAndRefill source a.type a else index
  | .retyped oldType a =>
    let index :=
      if index.drawn.contains oldType then index.withdrawAndRefill source oldType a else index
    if index.drawn.contains a.type then index.file a.type a else index
  | .changed a =>
    if index.drawn.contains a.type then (index.withdraw a.type a).2.file a.type a else index

end Index

/-- An index that observes a document by a subscription, which it has until it is disposed. -/
structure Observer where
  index : Index
  subscription? : Option Nat

namespace Observer

/-- A new observer of a document. -/
def subscribe (board : Board) : Observer × Board :=
  let (number, feed) := board.feed.subscribe
  (⟨.empty, some number⟩, { board with feed := feed })

/-- Reads the events of the document and brings the index up to date. -/
def sync (observer : Observer) (board : Board) : Observer × Board :=
  match observer.subscription? with
  | none => (observer, board)
  | some number =>
    let index :=
      (board.feed.unread number).foldl (·.patch board.document.source) observer.index
    ({ observer with index := index }, { board with feed := board.feed.markRead number })

/-- What the index draws annotations from. A disposed index has no source. -/
def source (observer : Observer) (board : Board) : Source :=
  if observer.subscription?.isSome then board.document.source else .none

/-- Answers a question by the index after it is brought up to date, which may change it. -/
def query (observer : Observer) (board : Board) (ask : Index → Source → α × Index) :
    α × Observer × Board :=
  let (observer, board) := observer.sync board
  let (answer, index) := ask observer.index (observer.source board)
  (answer, { observer with index := index }, board)

/-- The annotations of a type at a start. -/
def annotations (observer : Observer) (board : Board) (type : String) (start : Nat) :
    List Annotation × Observer × Board :=
  observer.query board fun index source =>
    (index.annotations source type start, index.draw source type)

/-- Cancels the subscription and disposes the index. -/
def dispose (observer : Observer) (board : Board) : Observer × Board :=
  (⟨observer.index.dispose, none⟩,
    match observer.subscription? with
    | some number => { board with feed := board.feed.cancel number }
    | none => board)

end Observer

end SpanSearch
