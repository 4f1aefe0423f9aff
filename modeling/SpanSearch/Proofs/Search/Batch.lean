import Mathlib
import SpanSearch.Proofs.Cache.Sharing
import SpanSearch.Proofs.Search.Order

/-! # Searching several documents at once

Each document is searched by a task of its own, and the tasks share a cache of patterns. A task gets from
it what it would have compiled by itself, whatever was in the cache before and in whatever order the tasks
take their turns. So what is found in a document does not depend on the others.
-/

namespace SpanSearch

namespace Search

/-- Whether annotations are those of some matches: one for each start, size and attributes that a match
has, by ascending starts, and the longer ones first. -/
structure Reports (type : String) (found : List Match) (reported : List Annotation) : Prop where
  mem_iff : ∀ a, a ∈ reported ↔ ∃ m ∈ found, a = ⟨none, type, m.start, m.size, m.attributes⟩
  distinct : reported.Pairwise fun a b =>
    (a.start, a.size, a.attributes) ≠ (b.start, b.size, b.attributes)
  ordered : reported.Pairwise fun a b => a.start < b.start ∨ a.start = b.start ∧ b.size ≤ a.size

theorem reports_toAnnotations (type : String) {found : List Match}
    (sorted : found.Pairwise (Match.precedes · ·)) :
    Reports type found (toAnnotations type found) where
  mem_iff a := by
    rw [toAnnotations, List.mem_eraseDups, List.mem_map]
    exact exists_congr fun m => and_congr_right fun _ => eq_comm
  distinct := by
    have nodup : (toAnnotations type found).Nodup := Keyed.nodup_eraseDups _
    have made : ∀ a ∈ toAnnotations type found, a.id = none ∧ a.type = type := by
      intro a mem
      rw [toAnnotations, List.mem_eraseDups] at mem
      obtain ⟨m, -, rfl⟩ := List.mem_map.1 mem
      exact ⟨rfl, rfl⟩
    refine nodup.imp_of_mem fun {a b} mem mem' differ same => differ ?_
    obtain ⟨_, _, start, size, attributes⟩ := a
    obtain ⟨_, _, start', size', attributes'⟩ := b
    obtain ⟨rfl, rfl⟩ := made _ mem
    obtain ⟨rfl, rfl⟩ := made _ mem'
    simp only [Prod.mk.injEq] at same
    obtain ⟨rfl, rfl, rfl⟩ := same
    rfl
  ordered := by
    have ordered : (found.map (Match.toAnnotation type)).Pairwise fun a b =>
        a.start < b.start ∨ a.start = b.start ∧ b.size ≤ a.size := by
      refine List.Pairwise.map _ (fun m n precedes => ?_) sorted
      simp only [Match.precedes, Bool.or_eq_true, Bool.and_eq_true, decide_eq_true_eq, beq_iff_eq]
        at precedes
      exact precedes
    exact ordered.sublist (Keyed.eraseDups_sublist _)

/-- Matches are found in order. -/
theorem precedes_find (config : Config) (tokens : List Token) (annotations : Lookup)
    (interrupted : Nat → Bool) (p : Pattern) :
    (find config tokens annotations interrupted p).Pairwise (Match.precedes · ·) :=
  List.pairwise_mergeSort Match.precedes_trans Match.precedes_total _

end Search

/-- A search of documents for the pattern that a text writes. What it finds gets a type. -/
structure Batch where
  documents : List Document
  source : String
  type : String
  config : Config
  engine : Expression.Engine

namespace Batch

/-- What the tasks ask the cache for, in the order of the documents. -/
def requests (batch : Batch) : List Request :=
  batch.documents.map fun d => ⟨d.tokenizer, batch.source⟩

/-- The tasks before they start, with the cache that they share. -/
def start (batch : Batch) (cache : Cache Pattern) : Pool :=
  ⟨cache, batch.requests.map fun r => ⟨[r], .lookup, []⟩⟩

/-- The matches of a pattern among the annotations of a document. -/
def found (batch : Batch) (d : Document) (p : Pattern) : List Match :=
  Search.find batch.config d.tokens (Index.ofList d.annotations).filed (fun _ => false) p

/-- What a task reports once the cache has answered. -/
def report (batch : Batch) (d : Document)
    (answers : List (Request × Except Pattern.Fault Pattern)) :
    Option (Except Pattern.Fault (List Annotation)) :=
  answers.head?.map fun a => a.2.map fun p => Search.toAnnotations batch.type (batch.found d p)

/-- What all the tasks report, in the order of the documents, if each of them is done. -/
def outcome (batch : Batch) (pool : Pool) : Option (Except Pattern.Fault (List (List Annotation))) :=
  let reports := List.zipWith batch.report batch.documents (pool.threads.map (·.answers))
  (reports.mapM id).map (·.mapM id)

/-- The batch of one of the documents. -/
def alone (batch : Batch) (d : Document) : Batch := { batch with documents := [d] }

/-- What a task by itself reports with a cache that is empty. -/
def outcomeAlone (batch : Batch) (d : Document) :
    Option (Except Pattern.Fault (List (List Annotation))) :=
  (batch.alone d).outcome (((batch.alone d).start (.ofCapacity batch.config.cacheCapacity)).run
    batch.engine (List.replicate 3 (.thread 0)))

end Batch

/-- Whether the values of a cache were all compiled for some requests. -/
def Cache.CompiledFor (engine : Expression.Engine) (requests : List Request) (cache : Cache Pattern) :
    Prop :=
  ∀ e ∈ cache.entries, ∃ r ∈ requests, r.key = e.key ∧ r.compile engine = .ok e.value

/-! ## Tasks -/

namespace Batch

variable {batch : Batch} {engine : Expression.Engine} {earlier requests : List Request}
  {cache : Cache Pattern} {pool : Pool} {turns : List Turn}

/-- Whether the tasks are in order after the turns that were taken: the cache holds what comes of all
requests, and each task has got what comes of its own or has steps left. -/
structure Running (batch : Batch) (requests : List Request) (turns : List Turn) (pool : Pool) :
    Prop where
  all : pool.cache.All (Request.Settles batch.engine requests)
  length : pool.threads.length = batch.requests.length
  threads : ∀ i t, pool.threads[i]? = some t →
    ∃ r, batch.requests[i]? = some r ∧ t.Serves batch.engine [r]
      ∧ t.stepsLeft ≤ 3 - turns.count (.thread i)

theorem settles_of_compiledFor (consistent : Request.Consistent requests) (sub : earlier ⊆ requests)
    (stocked : cache.CompiledFor engine earlier) : cache.All (Request.Settles engine requests) := by
  intro e mem
  obtain ⟨r, asked, same, compiled⟩ := stocked e mem
  exact same ▸ consistent.settles (sub asked) compiled

theorem running_start (batch : Batch)
    (all : cache.All (Request.Settles batch.engine requests)) :
    batch.Running requests [] (batch.start cache) where
  all := all
  length := List.length_map _
  threads := by
    intro i t at_
    rw [start, List.getElem?_map] at at_
    obtain ⟨r, asked, rfl⟩ := Option.map_eq_some_iff.1 at_
    exact ⟨r, asked, Thread.serves_start batch.engine [r], Nat.le_refl _⟩

theorem Running.step (running : batch.Running requests turns pool)
    (consistent : Request.Consistent requests) (sub : batch.requests ⊆ requests) (turn : Turn) :
    batch.Running requests (turns ++ [turn]) (pool.step batch.engine turn) := by
  have others {i : Nat} {t : Thread} (other : turn ≠ .thread i) (at_ : pool.threads[i]? = some t) :
      ∃ r, batch.requests[i]? = some r ∧ t.Serves batch.engine [r]
        ∧ t.stepsLeft ≤ 3 - (turns ++ [turn]).count (.thread i) := by
    rw [List.count_append, List.count_singleton, if_neg (by simpa using other), Nat.add_zero]
    exact running.threads i t at_
  cases turn with
  | clear => exact ⟨.clear pool.cache, running.length, fun i t at_ => others (by simp) at_⟩
  | thread number =>
    rw [Pool.step]
    cases at_number : pool.threads[number]? with
    | none =>
      refine ⟨running.all, running.length, fun i t at_ => others ?_ at_⟩
      rintro ⟨⟩
      cases at_number.symm.trans at_
    | some t =>
      obtain ⟨r, asked, serves, left⟩ := running.threads number t at_number
      have sub_single : [r] ⊆ requests :=
        List.cons_subset.2 ⟨sub (List.mem_of_getElem? asked), List.nil_subset _⟩
      have moves := Thread.moves_step batch.engine pool.cache t
      refine ⟨moves.all serves sub_single consistent running.all,
        List.length_set.trans running.length, fun i t' at_ => ?_⟩
      by_cases same : number = i
      · subst same
        rw [List.getElem?_set_self (List.getElem?_eq_some_iff.1 at_number).1] at at_
        cases at_
        refine ⟨r, asked, serves.moves moves sub_single running.all, ?_⟩
        have nearer := moves.stepsLeft_le
        rw [List.count_append, List.count_singleton_self]
        omega
      · rw [List.getElem?_set_ne same] at at_
        exact others (by simpa using same) at_

theorem Running.run (running : batch.Running requests turns pool)
    (consistent : Request.Consistent requests) (sub : batch.requests ⊆ requests)
    (later : List Turn) :
    batch.Running requests (turns ++ later) (pool.run batch.engine later) := by
  induction later generalizing pool turns with
  | nil =>
    rw [List.append_nil]
    exact running
  | cons turn later ih =>
    have next := ih (running.step consistent sub turn)
    rw [List.append_assoc] at next
    exact next

/-- A task that has had its turns has got what comes of its request. -/
theorem answers_of_serves {r : Request} {t : Thread} (serves : t.Serves engine [r])
    (finished : t.stepsLeft = 0) : t.answers = [(r, r.compile engine)] := by
  have asked := serves.requests
  rw [Thread.pending_of_stepsLeft finished, List.append_nil] at asked
  obtain ⟨⟨r', answer⟩, answers, rfl⟩ := List.map_eq_singleton_iff.1 asked
  have right : answer = r'.compile engine := serves.answers _ (by rw [answers]; exact .head _)
  rw [answers, right]

/-- When each task has had its turns, the cache has answered as if there were none. -/
theorem Running.answers (running : batch.Running requests turns pool)
    (fair : ∀ i < batch.documents.length, 3 ≤ turns.count (.thread i)) :
    pool.threads.map (·.answers) = batch.requests.map fun r => [(r, r.compile batch.engine)] := by
  refine List.ext_getElem? fun i => ?_
  rw [List.getElem?_map, List.getElem?_map]
  cases at_ : pool.threads[i]? with
  | none =>
    rw [List.getElem?_eq_none_iff, running.length, ← List.getElem?_eq_none_iff] at at_
    rw [at_]
    rfl
  | some t =>
    obtain ⟨r, asked, serves, left⟩ := running.threads i t at_
    have within : i < batch.documents.length := by
      rw [← List.length_map (f := fun d : Document => Request.mk d.tokenizer batch.source)]
      exact (List.getElem?_eq_some_iff.1 asked).1
    have turned := fair i within
    rw [asked, Option.map_some, Option.map_some, answers_of_serves serves (by omega)]

/-- When each task has had its turns, they report what is found in each document by itself. -/
theorem Running.outcome (running : batch.Running requests turns pool)
    (fair : ∀ i < batch.documents.length, 3 ≤ turns.count (.thread i)) :
    batch.outcome pool
      = some (Search.annotationsInAll batch.config batch.engine batch.source batch.type
          batch.documents) := by
  let alone := Search.annotationsIn batch.config batch.engine batch.source batch.type
  have reports : List.zipWith batch.report batch.documents (pool.threads.map (·.answers))
      = batch.documents.map fun d => some (alone d) := by
    rw [running.answers fair, Batch.requests, List.map_map, List.zipWith_map_right,
      List.zipWith_self]
    rfl
  have finished : (batch.documents.map fun d => some (alone d)).mapM id
      = some (batch.documents.map alone) := by
    rw [List.mapM_map]
    exact List.mapM_pure
  rw [Batch.outcome, reports, finished, Option.map_some, List.mapM_map]
  rfl

/-- What can be made of each item can be made of all of them. -/
theorem exists_mapM {f : α → Except ε β} {items : List α} (each : ∀ a ∈ items, (f a).isOk = true) :
    ∃ made, items.mapM f = .ok made ∧ List.Forall₂ (fun a b => f a = .ok b) items made := by
  induction items with
  | nil => exact ⟨[], rfl, .nil⟩
  | cons a items ih =>
    obtain ⟨here, later⟩ := List.forall_mem_cons.1 each
    obtain ⟨made, all, alike⟩ := ih later
    cases first : f a with
    | error fault =>
      rw [first] at here
      cases here
    | ok b =>
      refine ⟨b :: made, ?_, .cons first alike⟩
      rw [List.mapM_cons, first, all]
      rfl

/-- A task by itself reports what is found in its document. -/
theorem outcomeAlone_eq (batch : Batch) (d : Document) :
    batch.outcomeAlone d
      = some (Search.annotationsInAll batch.config batch.engine batch.source batch.type [d]) := by
  have consistent : Request.Consistent (batch.alone d).requests := by
    simp [Request.Consistent, requests, alone]
  have running := running_start (batch.alone d)
    (.ofCapacity batch.config.cacheCapacity : (Cache.ofCapacity _).All
      (Request.Settles batch.engine (batch.alone d).requests))
  exact (running.run consistent (List.Subset.refl _) _).outcome (by simp [alone])

/-- The pattern that is a tag. -/
def tagPattern : Pattern := ⟨"<b>", [.atom (.tag ⟨"b", [], none⟩) .plain]⟩

/-- Two documents that are cut in different ways, each with a tag. -/
def twoDocuments : Batch where
  documents := [
    { Document.ofText .standard "x-y z" with annotations := [.ofSpan "a" 0 2, .ofSpan "a" 0 1] },
    { Document.ofText .atSpace "x, y" with annotations := [.ofSpan "a" 1 1] }]
  source := "<a>"
  type := "found"
  config := { cacheCapacity := 1 }
  engine := Expression.standard

/-- A cache that is full with another tag. -/
def fullCache : Cache Pattern :=
  (Cache.ofCapacity 1).insert Tokenizer.standard.name tagPattern.source tagPattern

/-- The tasks take turns, and the pattern of one takes the place of the pattern of the other. -/
def mixedTurns : List Turn :=
  [.thread 1, .thread 0, .thread 0, .thread 1, .thread 1, .thread 0]

end Batch

end SpanSearch
