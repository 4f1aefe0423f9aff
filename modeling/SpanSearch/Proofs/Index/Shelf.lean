import SpanSearch.Proofs.Index.View

/-! # Shelves

A shelf holds all annotations of a source from the start, those of each type and start in a list of
their own. An index over a source that does not change gives the answers of such a shelf. So nobody
can tell by them when the index draws the annotations of a type, or what else was looked up before.
-/

namespace SpanSearch

namespace Index

/-- What is asked of an index. -/
inductive Call where
  /-- An annotation is added under a type, its own or another one. -/
  | add (type : String) (a : Annotation)
  | addAll (annotations : List Annotation)
  | addAllAs (type : String) (annotations : List Annotation)
  /-- An annotation is removed from under a type, its own or another one. -/
  | remove (type : String) (a : Annotation)
  | removeAll (annotations : List Annotation)
  | annotations (type : String) (start : Nat)
  | types
  | dispose

/-- What is answered to a call. -/
inductive Answer where
  | done
  | told (b : Bool)
  | counted (n : Nat)
  | found (annotations : List Annotation)
  | listed (types : List String)
  deriving DecidableEq

/-- Whether a call only looks something up. -/
def Call.isLookup : Call → Bool
  | .annotations .. => true
  | .types => true
  | _ => false

/-- The answer to a call, and the index after it. -/
def serve (index : Index) (source : Source) : Call → Answer × Index
  | .add type a =>
    let (added, index) := index.add source type a
    (.told added, index)
  | .addAll annotations => (.done, index.addAll source annotations)
  | .addAllAs type annotations => (.done, index.addAllAs source type annotations)
  | .remove type a =>
    let (removed, index) := index.remove source type a
    (.told removed, index)
  | .removeAll annotations =>
    let (count, index) := index.removeAll source annotations
    (.counted count, index)
  | .annotations type start =>
    (.found (index.annotations source type start), index.draw source type)
  | .types => (.listed (index.types source), index)
  | .dispose => (.done, index.dispose)

/-- The index after several calls. -/
def after (index : Index) (source : Source) (calls : List Call) : Index :=
  calls.foldl (fun index c => (index.serve source c).2) index

end Index

/-- Annotations by type and start. -/
structure Shelf where
  /-- The annotations of a type at a start, in the order in which they came. -/
  held : String → Nat → List Annotation
  /-- The types that the source names. -/
  named : List String
  disposed : Bool

namespace Shelf

open Index (Call Answer)

/-- The shelf with all annotations of a source. -/
def ofSource (source : Source) : Shelf :=
  ⟨fun type start => firstsAt start (source.ofType type), source.types, false⟩

/-- The shelf with other annotations of one type at one start. -/
def change (shelf : Shelf) (type : String) (start : Nat)
    (f : List Annotation → List Annotation) : Shelf :=
  { shelf with
    held := fun t s => if t = type ∧ s = start then f (shelf.held t s) else shelf.held t s }

/-- Puts an annotation on the shelf unless one of its size is there, and tells whether it was put. -/
def add (shelf : Shelf) (type : String) (a : Annotation) : Bool × Shelf :=
  if shelf.disposed || hasSize (shelf.held type a.start) a then (false, shelf)
  else (true, shelf.change type a.start (· ++ [a]))

/-- Takes off the annotation with the size and the identifier of another one, and tells whether there
was one. -/
def remove (shelf : Shelf) (type : String) (a : Annotation) : Bool × Shelf :=
  ((shelf.held type a.start).any (isCopy a), shelf.change type a.start (·.eraseP (isCopy a)))

def addEach (shelf : Shelf) (pairs : List (String × Annotation)) : Shelf :=
  pairs.foldl (fun shelf pair => (shelf.add pair.1 pair.2).2) shelf

def removeEach (shelf : Shelf) : List Annotation → Nat × Shelf
  | [] => (0, shelf)
  | a :: annotations =>
    let (removed, shelf) := shelf.remove a.type a
    let (count, shelf) := shelf.removeEach annotations
    (if removed then count + 1 else count, shelf)

/-- The shelf when it is disposed. -/
def dispose (shelf : Shelf) : Shelf := { shelf with held := fun _ _ => [], disposed := true }

/-- The shelf after a call. -/
def next (shelf : Shelf) : Call → Shelf
  | .add type a => (shelf.add type a).2
  | .addAll annotations => shelf.addEach (annotations.map fun a => (a.type, a))
  | .addAllAs type annotations => shelf.addEach (annotations.map fun a => (type, a))
  | .remove type a => (shelf.remove type a).2
  | .removeAll annotations => (shelf.removeEach annotations).2
  | .annotations .. => shelf
  | .types => shelf
  | .dispose => shelf.dispose

/-- Whether a shelf knows a type: it is not disposed, and the source names the type or something of it
is there. -/
def Knows (shelf : Shelf) (type : String) : Prop :=
  shelf.disposed = false ∧ (type ∈ shelf.named ∨ ∃ start, shelf.held type start ≠ [])

/-- What a shelf answers to a call. Types are told in ascending order. -/
inductive Replies (shelf : Shelf) : Call → Answer → Prop
  | add {type : String} {a : Annotation} : Replies shelf (.add type a) (.told (shelf.add type a).1)
  | addAll {annotations : List Annotation} : Replies shelf (.addAll annotations) .done
  | addAllAs {type : String} {annotations : List Annotation} :
    Replies shelf (.addAllAs type annotations) .done
  | remove {type : String} {a : Annotation} :
    Replies shelf (.remove type a) (.told (shelf.remove type a).1)
  | removeAll {annotations : List Annotation} :
    Replies shelf (.removeAll annotations) (.counted (shelf.removeEach annotations).1)
  | annotations {type : String} {start : Nat} :
    Replies shelf (.annotations type start) (.found (shelf.held type start))
  | types {types : List String} (ascending : types.Pairwise (· < ·))
      (members : ∀ type, type ∈ types ↔ shelf.Knows type) :
    Replies shelf .types (.listed types)
  | dispose : Replies shelf .dispose .done

/-- The shelf after several calls. -/
def after (shelf : Shelf) (calls : List Call) : Shelf := calls.foldl next shelf

variable {shelf : Shelf} {c : Call} {calls calls' : List Call}

theorem after_append :
    shelf.after (calls ++ calls') = (shelf.after calls).after calls' :=
  List.foldl_append

/-- A shelf has one answer to a call. -/
theorem Replies.unique {answer answer' : Answer} (h : shelf.Replies c answer)
    (h' : shelf.Replies c answer') : answer = answer' := by
  cases h with
  | types ascending members =>
    cases h' with
    | types ascending' members' =>
      have same : ∀ type, type ∈ _ ↔ type ∈ _ := fun type => (members type).trans (members' type).symm
      rw [TextSet.eq_of_ascending ascending ascending' same]
  | _ =>
    cases h'
    rfl

/-- Lookups leave a shelf as it is. -/
theorem next_of_isLookup (h : c.isLookup = true) : shelf.next c = shelf := by
  cases c with
  | annotations | types => rfl
  | _ => cases h

theorem after_filter : shelf.after (calls.filter (!·.isLookup)) = shelf.after calls := by
  induction calls generalizing shelf with
  | nil => rfl
  | cons c calls ih =>
    cases lookup : c.isLookup with
    | true =>
      rw [List.filter_cons_of_neg (by simp [lookup]), ih]
      exact congrArg (after · calls) (next_of_isLookup lookup).symm
    | false =>
      rw [List.filter_cons_of_pos (by simp [lookup])]
      exact ih

/-! ## What stays true of shelves -/

/-- What is disposed stays so. -/
theorem disposed_next (gone : shelf.disposed = true) : (shelf.next c).disposed = true := by
  have added (type : String) (a : Annotation) : (shelf.add type a).2 = shelf := by
    rw [add, gone, Bool.true_or, if_pos rfl]
  have addedEach (pairs : List (String × Annotation)) : shelf.addEach pairs = shelf := by
    induction pairs with
    | nil => rfl
    | cons pair pairs ih => rwa [addEach, List.foldl_cons, added]
  have removedEach (annotations : List Annotation) {shelf : Shelf} (gone : shelf.disposed = true) :
      (shelf.removeEach annotations).2.disposed = true := by
    induction annotations generalizing shelf with
    | nil => exact gone
    | cons a annotations ih => exact @ih (shelf.remove a.type a).2 gone
  cases c with
  | add type a => rwa [next, added]
  | addAll | addAllAs => rwa [next, addedEach]
  | remove | annotations | types => exact gone
  | removeAll annotations => exact removedEach annotations gone
  | dispose => rfl

/-- Whether what a shelf holds of a type at a start does start there, and has different sizes. -/
structure Orderly (shelf : Shelf) : Prop where
  starts : ∀ {type start a}, a ∈ shelf.held type start → a.start = start
  sizes : ∀ type start, (shelf.held type start).Pairwise fun a b => a.size ≠ b.size

theorem orderly_ofSource {source : Source} : (ofSource source).Orderly where
  starts mem := by
    have mem := (mem_foldl_join mem).resolve_left List.not_mem_nil
    exact beq_iff_eq.1 (List.mem_filter.1 mem).2
  sizes type start := by
    refine List.foldlRecOn _ join .nil fun annotations sizes a _ => pairwise_join sizes

theorem Orderly.change {type : String} {start : Nat} {f : List Annotation → List Annotation}
    (orderly : shelf.Orderly)
    (starts : ∀ a ∈ f (shelf.held type start), a.start = start)
    (sizes : (f (shelf.held type start)).Pairwise fun a b => a.size ≠ b.size) :
    (shelf.change type start f).Orderly where
  starts {t s a} mem := by
    simp only [Shelf.change] at mem
    split at mem
    · next here =>
      obtain ⟨rfl, rfl⟩ := here
      exact starts a mem
    · exact orderly.starts mem
  sizes t s := by
    simp only [Shelf.change]
    split
    · next here =>
      obtain ⟨rfl, rfl⟩ := here
      exact sizes
    · exact orderly.sizes t s

theorem Orderly.add {type : String} {a : Annotation} (orderly : shelf.Orderly) :
    (shelf.add type a).2.Orderly := by
  rw [Shelf.add]
  split
  · exact orderly
  · next free =>
    rw [Bool.or_eq_true, not_or, Bool.not_eq_true, Bool.not_eq_true] at free
    have joined : join (shelf.held type a.start) a = shelf.held type a.start ++ [a] := by
      rw [join, free.2, if_neg Bool.false_ne_true]
    have sizes := pairwise_join (a := a) (orderly.sizes type a.start)
    rw [joined] at sizes
    refine orderly.change (f := (· ++ [a])) (fun b mem => ?_) sizes
    rcases List.mem_append.1 mem with mem | mem
    · exact orderly.starts mem
    · rw [List.mem_singleton.1 mem]

theorem Orderly.remove {type : String} {a : Annotation} (orderly : shelf.Orderly) :
    (shelf.remove type a).2.Orderly :=
  orderly.change (fun _ mem => orderly.starts (List.mem_of_mem_eraseP mem))
    ((orderly.sizes type a.start).sublist List.eraseP_sublist)

theorem orderly_dispose : shelf.dispose.Orderly := ⟨fun mem => (nomatch mem), fun _ _ => .nil⟩

theorem Orderly.addEach {pairs : List (String × Annotation)} (orderly : shelf.Orderly) :
    (shelf.addEach pairs).Orderly := by
  induction pairs generalizing shelf with
  | nil => exact orderly
  | cons pair pairs ih => exact ih orderly.add

theorem Orderly.removeEach {annotations : List Annotation} (orderly : shelf.Orderly) :
    (shelf.removeEach annotations).2.Orderly := by
  induction annotations generalizing shelf with
  | nil => exact orderly
  | cons a annotations ih => exact ih orderly.remove

theorem Orderly.next (orderly : shelf.Orderly) : (shelf.next c).Orderly := by
  cases c with
  | add => exact orderly.add
  | addAll | addAllAs => exact orderly.addEach
  | remove => exact orderly.remove
  | removeAll => exact orderly.removeEach
  | annotations | types => exact orderly
  | dispose => exact orderly_dispose

end Shelf

namespace Index

variable {index : Index} {source : Source} {type : String} {a : Annotation} {c : Call}
  {calls : List Call}

/-- What an index shows, as a shelf. -/
def shelf (index : Index) (source : Source) : Shelf :=
  ⟨index.annotations source, source.types, index.disposed⟩

theorem shelf_empty : empty.shelf source = .ofSource source := by
  refine congrArg (Shelf.mk · source.types false) ?_
  funext type start
  exact annotations_empty

theorem shelf_draw : (index.draw source type).shelf source = index.shelf source := by
  rw [shelf, disposed_draw]
  refine congrArg (Shelf.mk · source.types index.disposed) ?_
  funext type' start
  exact annotations_draw

theorem shelf_dispose : index.dispose.shelf source = (index.shelf source).dispose := by
  refine congrArg (Shelf.mk · source.types true) ?_
  funext type start
  exact annotations_dispose

/-- An index and its shelf agree on what is added. -/
theorem shelf_add :
    (index.add source type a).1 = ((index.shelf source).add type a).1
      ∧ (index.add source type a).2.shelf source = ((index.shelf source).add type a).2 := by
  cases open_ : index.disposed with
  | true =>
    rw [add_of_disposed open_, Shelf.add, if_pos (by simp [shelf, open_])]
    exact ⟨rfl, rfl⟩
  | false =>
    cases held : hasSize (index.annotations source type a.start) a with
    | true =>
      rw [add_of_held held, Shelf.add, if_pos (by simp [shelf, held])]
      exact ⟨rfl, shelf_draw⟩
    | false =>
      rw [add_of_free open_ held, Shelf.add, if_neg (by simp [shelf, open_, held])]
      refine ⟨rfl, ?_⟩
      rw [shelf, disposed_file, disposed_draw]
      refine congrArg (Shelf.mk · source.types index.disposed) ?_
      funext t s
      rw [annotations_file settled_draw, annotations_draw]
      refine if_ctx_congr Iff.rfl (fun here => ?_) fun _ => rfl
      obtain ⟨rfl, rfl⟩ := here
      rw [join, held, if_neg Bool.false_ne_true]
      rfl

/-- An index and its shelf agree on what is removed. -/
theorem shelf_remove :
    (index.remove source type a).1 = ((index.shelf source).remove type a).1
      ∧ (index.remove source type a).2.shelf source = ((index.shelf source).remove type a).2 := by
  refine ⟨told_remove, ?_⟩
  rw [shelf, disposed_remove]
  refine congrArg (Shelf.mk · source.types index.disposed) ?_
  funext t s
  exact annotations_remove

theorem shelf_addEach (pairs : List (String × Annotation)) :
    (pairs.foldl (fun index pair => (index.add source pair.1 pair.2).2) index).shelf source
      = (index.shelf source).addEach pairs := by
  induction pairs generalizing index with
  | nil => rfl
  | cons pair pairs ih =>
    rw [List.foldl_cons, ih, shelf_add.2]
    rfl

theorem shelf_addAll {annotations : List Annotation} :
    (index.addAll source annotations).shelf source
      = (index.shelf source).addEach (annotations.map fun a => (a.type, a)) := by
  rw [← shelf_addEach, List.foldl_map]
  rfl

theorem shelf_addAllAs {annotations : List Annotation} :
    (index.addAllAs source type annotations).shelf source
      = (index.shelf source).addEach (annotations.map fun a => (type, a)) := by
  rw [← shelf_addEach, List.foldl_map]
  rfl

theorem shelf_removeAll {annotations : List Annotation} :
    (index.removeAll source annotations).1 = ((index.shelf source).removeEach annotations).1
      ∧ (index.removeAll source annotations).2.shelf source
        = ((index.shelf source).removeEach annotations).2 := by
  induction annotations generalizing index with
  | nil => exact ⟨rfl, rfl⟩
  | cons a annotations ih =>
    obtain ⟨told, shown⟩ := @shelf_remove index source a.type a
    obtain ⟨count, left⟩ := @ih (index.remove source a.type a).2
    rw [shown] at count left
    rw [removeAll, Shelf.removeEach]
    refine ⟨?_, left⟩
    simp only [told, count]

/-- The shelf of an index keeps up with it. -/
theorem shelf_serve : (index.serve source c).2.shelf source = (index.shelf source).next c := by
  cases c with
  | add => exact shelf_add.2
  | addAll => exact shelf_addAll
  | addAllAs => exact shelf_addAllAs
  | remove => exact shelf_remove.2
  | removeAll => exact shelf_removeAll.2
  | annotations => exact shelf_draw
  | types => rfl
  | dispose => exact shelf_dispose

/-- An index answers what its shelf does. -/
theorem replies_serve (listed : c = .types → source.Listed) :
    (index.shelf source).Replies c (index.serve source c).1 := by
  cases c with
  | add type a =>
    rw [serve]
    simp only [shelf_add.1]
    exact .add
  | addAll => exact .addAll
  | addAllAs => exact .addAllAs
  | remove type a =>
    rw [serve]
    simp only [shelf_remove.1]
    exact .remove
  | removeAll annotations =>
    rw [serve]
    simp only [shelf_removeAll.1]
    exact .removeAll
  | annotations => exact .annotations
  | types => exact .types pairwise_types fun _ => mem_types (listed rfl)
  | dispose => exact .dispose

theorem shelf_after :
    (index.after source calls).shelf source = (index.shelf source).after calls := by
  induction calls generalizing index with
  | nil => rfl
  | cons c calls ih =>
    refine (@ih (index.serve source c).2).trans ?_
    rw [shelf_serve]
    rfl

/-- The answer to a call after any others is the one that the shelf of the source gives, which has
all annotations from the start. So lookups in between change no answer. Types are told the same if
the source names all types that it has annotations of. -/
theorem answer_eq_shelf (source : Source) (calls : List Call) (c : Call)
    (listed : c = .types → source.Listed) :
    (∀ answer, ((Shelf.ofSource source).after calls).Replies c answer
        ↔ answer = ((empty.after source calls).serve source c).1)
      ∧ ∀ calls', calls'.filter (!·.isLookup) = calls.filter (!·.isLookup) →
        ((empty.after source calls').serve source c).1
          = ((empty.after source calls).serve source c).1 := by
  have replies (calls : List Call) : ((Shelf.ofSource source).after calls).Replies c
      ((empty.after source calls).serve source c).1 := by
    rw [← shelf_empty, ← shelf_after]
    exact replies_serve listed
  refine ⟨fun answer => ⟨fun reply => reply.unique (replies calls), ?_⟩, ?_⟩
  · rintro rfl
    exact replies calls
  · intro calls' same
    have reply := replies calls'
    rw [← Shelf.after_filter, same, Shelf.after_filter] at reply
    exact reply.unique (replies calls)

/-- The first of two annotations of one start is removed and one of the same size is put there, while
another type is only looked up. -/
def exchange : List Call :=
  [.annotations "y" 3, .remove "x" (.ofSpan "x" 0 1), .add "z" (.ofSpan "x" 0 1),
    .addAll [.ofSpan "x" 0 1, .ofSpan "x" 0 2]]

theorem replies_exchange :
    ((Shelf.ofSource (.ofList [.ofSpan "x" 0 1, .ofSpan "x" 0 2])).after exchange).Replies .types
        (.listed ["x", "z"])
      ∧ (Source.ofList [.ofSpan "x" 0 1, .ofSpan "x" 0 2]).Listed := by
  have listed := Source.listed_ofList [.ofSpan "x" 0 1, .ofSpan "x" 0 2]
  refine ⟨((answer_eq_shelf _ exchange .types fun _ => listed).1 _).2 ?_, listed⟩
  decide +kernel

end Index

end SpanSearch
