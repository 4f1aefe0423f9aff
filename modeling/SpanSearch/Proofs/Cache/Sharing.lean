import SpanSearch.Proofs.Cache.Entries
import SpanSearch.Proofs.Pattern.Pieces

/-! # Caches shared by threads

Threads share a cache of patterns. A thread holds the lock of the cache while it looks a pattern up, and
again while it puts one in, but not while it compiles in between. So others may meanwhile put in the same
pattern, put in another one for which it has to go, or clear the cache. In whatever order the threads
take their turns, each of them gets what it would have compiled by itself.
-/

namespace SpanSearch

/-- What a thread asks for: the pattern that a text writes, its literals cut by a tokenizer. -/
structure Request where
  tokenizer : Tokenizer
  source : String

/-- What a thread does next for what it asks for. -/
inductive Stage where
  | lookup
  | compile
  | insert (p : Pattern)

/-- A thread that asks for one pattern after the other. -/
structure Thread where
  pending : List Request
  stage : Stage
  /-- What it has asked for, with what it got. -/
  answers : List (Request × Except Pattern.Fault Pattern)

/-- Threads that share a cache. -/
structure Pool where
  cache : Cache Pattern
  threads : List Thread

/-- Whose turn it is: a thread takes a step, or the cache is cleared. -/
inductive Turn where
  | thread (number : Nat)
  | clear
  deriving DecidableEq

namespace Request

/-- The key in the cache. -/
def key (r : Request) : Cache.Key := ⟨r.tokenizer.name, r.source⟩

/-- What comes of a request without a cache. -/
def compile (engine : Expression.Engine) (r : Request) : Except Pattern.Fault Pattern :=
  Pattern.compile ⟨r.tokenizer, engine, none⟩ r.source

/-- Whether tokenizers with the same name cut in the same way. -/
def Consistent (requests : List Request) : Prop :=
  ∀ r ∈ requests, ∀ r' ∈ requests,
    r.tokenizer.name = r'.tokenizer.name → r.tokenizer.tokens = r'.tokenizer.tokens

/-- Whether a pattern is what comes of all the requests that have its key. -/
def Settles (engine : Expression.Engine) (requests : List Request) (key : Cache.Key)
    (p : Pattern) : Prop :=
  ∀ r ∈ requests, r.key = key → r.compile engine = .ok p

end Request

namespace Thread

/-- The thread and the cache after a step of the thread. -/
def step (engine : Expression.Engine) (cache : Cache Pattern) :
    Thread → Thread × Cache Pattern
  | ⟨[], stage, answers⟩ => (⟨[], stage, answers⟩, cache)
  | ⟨r :: rs, .lookup, answers⟩ =>
    let got := cache.get? r.tokenizer.name r.source
    match got.1 with
    | some p => (⟨rs, .lookup, answers ++ [(r, .ok p)]⟩, got.2)
    | none => (⟨r :: rs, .compile, answers⟩, got.2)
  | ⟨r :: rs, .compile, answers⟩ =>
    match r.compile engine with
    | .ok p => (⟨r :: rs, .insert p, answers⟩, cache)
    | .error fault => (⟨rs, .lookup, answers ++ [(r, .error fault)]⟩, cache)
  | ⟨r :: rs, .insert p, answers⟩ =>
    (⟨rs, .lookup, answers ++ [(r, .ok p)]⟩, cache.insert r.tokenizer.name p.source p)

/-- What a step of a thread may be. -/
inductive Moves (engine : Expression.Engine) (cache : Cache Pattern) :
    Thread → Thread × Cache Pattern → Prop where
  | done {stage answers} : Moves engine cache ⟨[], stage, answers⟩ (⟨[], stage, answers⟩, cache)
  | found {r rs answers p} (got : (cache.get? r.tokenizer.name r.source).1 = some p) :
    Moves engine cache ⟨r :: rs, .lookup, answers⟩
      (⟨rs, .lookup, answers ++ [(r, .ok p)]⟩, (cache.get? r.tokenizer.name r.source).2)
  | missed {r rs answers} (got : (cache.get? r.tokenizer.name r.source).1 = none) :
    Moves engine cache ⟨r :: rs, .lookup, answers⟩
      (⟨r :: rs, .compile, answers⟩, (cache.get? r.tokenizer.name r.source).2)
  | compiled {r rs answers p} (made : r.compile engine = .ok p) :
    Moves engine cache ⟨r :: rs, .compile, answers⟩ (⟨r :: rs, .insert p, answers⟩, cache)
  | refused {r rs answers fault} (made : r.compile engine = .error fault) :
    Moves engine cache ⟨r :: rs, .compile, answers⟩
      (⟨rs, .lookup, answers ++ [(r, .error fault)]⟩, cache)
  | inserted {r rs answers p} :
    Moves engine cache ⟨r :: rs, .insert p, answers⟩
      (⟨rs, .lookup, answers ++ [(r, .ok p)]⟩, cache.insert r.tokenizer.name p.source p)

/-- How many steps a thread has to take at most until nothing is pending. -/
def stepsLeft : Thread → Nat
  | ⟨[], _, _⟩ => 0
  | ⟨_ :: rs, .lookup, _⟩ => 3 * rs.length + 3
  | ⟨_ :: rs, .compile, _⟩ => 3 * rs.length + 2
  | ⟨_ :: rs, .insert _, _⟩ => 3 * rs.length + 1

end Thread

namespace Pool

/-- Threads that have not started yet, and an empty cache. -/
def start (capacity : Nat) (programs : List (List Request)) : Pool :=
  ⟨.ofCapacity capacity, programs.map fun requests => ⟨requests, .lookup, []⟩⟩

/-- The pool after a turn. -/
def step (engine : Expression.Engine) (pool : Pool) : Turn → Pool
  | .thread number =>
    match pool.threads[number]? with
    | none => pool
    | some t =>
      let (t, cache) := t.step engine pool.cache
      ⟨cache, pool.threads.set number t⟩
  | .clear => { pool with cache := pool.cache.clear }

/-- The pool after several turns. -/
def run (engine : Expression.Engine) (pool : Pool) (turns : List Turn) : Pool :=
  turns.foldl (step engine) pool

end Pool

variable {engine : Expression.Engine} {requests program : List Request} {cache : Cache Pattern}
  {r : Request} {rs : List Request} {p : Pattern} {fault : Pattern.Fault} {stage : Stage}
  {answers : List (Request × Except Pattern.Fault Pattern)} {t : Thread}
  {out : Thread × Cache Pattern}

/-! ## Steps of a thread -/

namespace Request

theorem source_of_compile (compiled : r.compile engine = .ok p) : p.source = r.source :=
  (Pattern.compile_eq_ok.1 compiled).1

/-- A request is known by its key. -/
theorem Consistent.eq_of_key (consistent : Consistent requests) (mem : r ∈ requests)
    {r' : Request} (mem' : r' ∈ requests) (same : r.key = r'.key) : r = r' := by
  obtain ⟨⟨name, tokens⟩, source⟩ := r
  obtain ⟨⟨name', tokens'⟩, source'⟩ := r'
  obtain ⟨rfl, rfl⟩ := Cache.Key.mk.inj same
  obtain rfl : tokens = tokens' := consistent _ mem _ mem' rfl
  rfl

theorem Consistent.settles (consistent : Consistent requests) (mem : r ∈ requests)
    (compiled : r.compile engine = .ok p) : Settles engine requests r.key p := by
  intro r' mem' same
  rw [consistent.eq_of_key mem' mem same]
  exact compiled

/-- What does not compile is settled by no pattern. -/
theorem not_settles (mem : r ∈ requests) (faulty : r.compile engine = .error fault)
    (p : Pattern) : ¬ Settles engine requests r.key p :=
  fun settled => nomatch faulty.symm.trans (settled r mem rfl)

end Request

namespace Thread

theorem moves_step (engine : Expression.Engine) (cache : Cache Pattern) (t : Thread) :
    Moves engine cache t (t.step engine cache) := by
  obtain ⟨_ | ⟨r, rs⟩, stage, answers⟩ := t
  · exact .done
  · cases stage with
    | lookup =>
      rw [step]
      split
      · next p got => exact .found got
      · next got => exact .missed got
    | compile =>
      rw [step]
      split
      · next p made => exact .compiled made
      · next fault made => exact .refused made
    | insert p => exact .inserted

/-- Whether a thread has got what comes of its requests, and is about to put in what comes of the
next one. -/
structure Serves (engine : Expression.Engine) (program : List Request) (t : Thread) : Prop where
  requests : t.answers.map (·.1) ++ t.pending = program
  answers : ∀ a ∈ t.answers, a.2 = a.1.compile engine
  compiled : ∀ p, t.stage = .insert p → ∀ r ∈ t.pending.head?, r.compile engine = .ok p

theorem serves_start (engine : Expression.Engine) (program : List Request) :
    (⟨program, .lookup, []⟩ : Thread).Serves engine program where
  requests := rfl
  answers := nofun
  compiled := nofun

theorem Serves.mem (serves : Serves engine program ⟨r :: rs, stage, answers⟩) : r ∈ program := by
  rw [← serves.requests]
  exact List.mem_append_right _ List.mem_cons_self

/-- A thread that gets what comes of its request goes on to the next one. -/
theorem Serves.next (serves : Serves engine program ⟨r :: rs, stage, answers⟩)
    {answer : Except Pattern.Fault Pattern} (right : answer = r.compile engine) :
    Serves engine program ⟨rs, .lookup, answers ++ [(r, answer)]⟩ where
  requests := by
    rw [List.map_append, List.append_assoc]
    exact serves.requests
  answers := by
    intro a mem
    rcases List.mem_append.1 mem with mem | mem
    · exact serves.answers a mem
    · rw [List.mem_singleton.1 mem]
      exact right
  compiled := nofun

theorem Serves.moves (serves : t.Serves engine program) (moves : Moves engine cache t out)
    (sub : program ⊆ requests) (all : cache.All (Request.Settles engine requests)) :
    out.1.Serves engine program := by
  cases moves with
  | done => exact serves
  | found got => exact serves.next (all.of_get got _ (sub serves.mem) rfl).symm
  | missed got => exact { serves with compiled := nofun }
  | compiled made =>
    refine { serves with compiled := ?_ }
    rintro _ ⟨⟩ _ ⟨⟩
    exact made
  | refused made => exact serves.next made.symm
  | inserted => exact serves.next (serves.compiled _ rfl _ rfl).symm

theorem Moves.all (moves : Moves engine cache t out) (serves : t.Serves engine program)
    (sub : program ⊆ requests) (consistent : Request.Consistent requests)
    (all : cache.All (Request.Settles engine requests)) :
    out.2.All (Request.Settles engine requests) := by
  cases moves with
  | done => exact all
  | found got => exact all.get _ _
  | missed got => exact all.get _ _
  | compiled made => exact all
  | refused made => exact all
  | inserted =>
    have made := serves.compiled _ rfl _ rfl
    apply all.insert
    rw [Request.source_of_compile made]
    exact consistent.settles (sub serves.mem) made

theorem Moves.room (moves : Moves engine cache t out) (size_le : cache.size ≤ cache.capacity) :
    out.2.capacity = cache.capacity ∧ out.2.size ≤ cache.capacity := by
  cases moves with
  | done => exact ⟨rfl, size_le⟩
  | found got => exact ⟨(cache.get?_cases _ _).1, (cache.size_get _ _).trans_le size_le⟩
  | missed got => exact ⟨(cache.get?_cases _ _).1, (cache.size_get _ _).trans_le size_le⟩
  | compiled made => exact ⟨rfl, size_le⟩
  | refused made => exact ⟨rfl, size_le⟩
  | inserted => exact ⟨cache.capacity_insert _ _ _, Cache.size_insert_le size_le _ _ _⟩

theorem stepsLeft_lookup (rs : List Request)
    (answers : List (Request × Except Pattern.Fault Pattern)) :
    stepsLeft ⟨rs, .lookup, answers⟩ = 3 * rs.length := by
  cases rs <;> rfl

theorem pending_of_stepsLeft (none : t.stepsLeft = 0) : t.pending = [] := by
  obtain ⟨_ | ⟨r, rs⟩, stage, answers⟩ := t
  · rfl
  · cases stage <;> cases none

/-- A step takes a thread nearer to its end. -/
theorem Moves.stepsLeft_le (moves : Moves engine cache t out) :
    out.1.stepsLeft ≤ t.stepsLeft - 1 := by
  cases moves with
  | done => exact Nat.le_refl _
  | found got =>
    rw [stepsLeft_lookup, stepsLeft]
    omega
  | missed got => exact Nat.le_refl _
  | compiled made => exact Nat.le_refl _
  | refused made =>
    rw [stepsLeft_lookup, stepsLeft]
    omega
  | inserted => exact Nat.le_of_eq (stepsLeft_lookup ..)

/-- What does not compile leaves the values in the cache as they are. -/
theorem Moves.entries_eq (moves : Moves engine cache t out) (serves : t.Serves engine program)
    (sub : program ⊆ requests) (all : cache.All (Request.Settles engine requests))
    (head : r ∈ t.pending.head?) (faulty : r.compile engine = .error fault) :
    out.2.entries = cache.entries := by
  cases moves with
  | done => rfl
  | found got =>
    cases head
    exact absurd (all.of_get got) (Request.not_settles (sub serves.mem) faulty _)
  | missed got => exact Cache.entries_get_of_none got
  | compiled made => rfl
  | refused made => rfl
  | inserted =>
    have made := serves.compiled _ rfl _ head
    cases faulty.symm.trans made

end Thread

/-! ## Turns of the threads -/

namespace Pool

variable {capacity : Nat} {programs : List (List Request)} {turns : List Turn} {pool : Pool}
  {number : Nat}

theorem subset_flatten (asked : programs[number]? = some program) : program ⊆ programs.flatten :=
  fun _ mem => List.mem_flatten_of_mem (List.mem_of_getElem? asked) mem

/-- Whether a pool is in order after the turns that were taken: the cache holds what comes of the
requests, and each thread got what comes of its own. -/
structure Sound (engine : Expression.Engine) (capacity : Nat) (programs : List (List Request))
    (turns : List Turn) (pool : Pool) : Prop where
  capacity_eq : pool.cache.capacity = capacity
  size_le : pool.cache.size ≤ capacity
  all : pool.cache.All (Request.Settles engine programs.flatten)
  length : pool.threads.length = programs.length
  threads : ∀ number t, pool.threads[number]? = some t →
    ∃ program, programs[number]? = some program ∧ t.Serves engine program
      ∧ t.stepsLeft ≤ 3 * program.length - turns.count (.thread number)

theorem sound_start (engine : Expression.Engine) (capacity : Nat)
    (programs : List (List Request)) :
    (start capacity programs).Sound engine capacity programs [] where
  capacity_eq := rfl
  size_le := Nat.zero_le _
  all := .ofCapacity capacity
  length := List.length_map _
  threads := by
    intro number t at_number
    rw [start, List.getElem?_map] at at_number
    obtain ⟨program, asked, rfl⟩ := Option.map_eq_some_iff.1 at_number
    exact ⟨program, asked, Thread.serves_start engine program,
      Nat.le_of_eq (Thread.stepsLeft_lookup ..)⟩

/-- A thread that takes no turn stays as it is. -/
theorem Sound.others (sound : pool.Sound engine capacity programs turns) {turn : Turn}
    (other : turn ≠ .thread number) (at_number : pool.threads[number]? = some t) :
    ∃ program, programs[number]? = some program ∧ t.Serves engine program
      ∧ t.stepsLeft ≤ 3 * program.length - (turns ++ [turn]).count (.thread number) := by
  rw [List.count_append, List.count_singleton, if_neg (by simpa using other), Nat.add_zero]
  exact sound.threads number t at_number

theorem Sound.step (sound : pool.Sound engine capacity programs turns)
    (consistent : Request.Consistent programs.flatten) (turn : Turn) :
    (pool.step engine turn).Sound engine capacity programs (turns ++ [turn]) := by
  cases turn with
  | clear =>
    exact { sound with
      size_le := Nat.zero_le _
      all := .clear pool.cache
      threads := fun _ _ at_number => sound.others (by simp) at_number }
  | thread number =>
    rw [Pool.step]
    cases at_number : pool.threads[number]? with
    | none =>
      refine { sound with threads := ?_ }
      intro other t at_other
      apply sound.others _ at_other
      rintro ⟨⟩
      rw [at_number] at at_other
      cases at_other
    | some t =>
      obtain ⟨program, asked, serves, left⟩ := sound.threads number t at_number
      have sub := subset_flatten asked
      have moves := Thread.moves_step engine pool.cache t
      obtain ⟨same_capacity, size_le⟩ := moves.room (sound.size_le.trans_eq sound.capacity_eq.symm)
      exact {
        capacity_eq := same_capacity.trans sound.capacity_eq
        size_le := size_le.trans_eq sound.capacity_eq
        all := moves.all serves sub consistent sound.all
        length := List.length_set.trans sound.length
        threads := by
          intro other t' at_other
          by_cases same : number = other
          · subst same
            rw [List.getElem?_set_self (List.getElem?_eq_some_iff.1 at_number).1] at at_other
            cases at_other
            refine ⟨program, asked, serves.moves moves sub sound.all, ?_⟩
            have nearer := moves.stepsLeft_le
            rw [List.count_append, List.count_singleton_self]
            omega
          · rw [List.getElem?_set_ne same] at at_other
            exact sound.others (by simpa using same) at_other }

theorem Sound.run (sound : pool.Sound engine capacity programs turns)
    (consistent : Request.Consistent programs.flatten) (later : List Turn) :
    (pool.run engine later).Sound engine capacity programs (turns ++ later) := by
  induction later generalizing pool turns with
  | nil =>
    rw [List.append_nil]
    exact sound
  | cons turn later ih =>
    have next := ih (sound.step consistent turn)
    rw [List.append_assoc] at next
    exact next

/-- Each thread is still there. -/
theorem Sound.exists_thread (sound : pool.Sound engine capacity programs turns)
    (asked : programs[number]? = some program) :
    ∃ t, pool.threads[number]? = some t ∧ t.Serves engine program
      ∧ t.stepsLeft ≤ 3 * program.length - turns.count (.thread number) := by
  have within : number < pool.threads.length := by
    rw [sound.length]
    exact (List.getElem?_eq_some_iff.1 asked).1
  have at_number := List.getElem?_eq_getElem within
  obtain ⟨program', asked', serves, left⟩ := sound.threads number _ at_number
  obtain rfl : program = program' := Option.some.inj (asked.symm.trans asked')
  exact ⟨_, at_number, serves, left⟩

/-- Nothing is in the cache for what does not compile. -/
theorem Sound.contains_eq_false (sound : pool.Sound engine capacity programs turns)
    (mem : r ∈ programs.flatten) (faulty : r.compile engine = .error fault) :
    pool.cache.contains r.tokenizer.name r.source = false :=
  sound.all.contains_eq_false (Request.not_settles mem faulty)

/-- The cache as a thread leaves it after its turn. -/
theorem cache_step (at_number : pool.threads[number]? = some t) :
    (pool.step engine (.thread number)).cache = (t.step engine pool.cache).2 := by
  rw [step, at_number]

/-- A thread that is not interrupted gets what is got or made in one go. -/
theorem run_alone (engine : Expression.Engine) (cache : Cache Pattern) (r : Request)
    (rs : List Request) (answers : List (Request × Except Pattern.Fault Pattern)) :
    let made := cache.getOrMake r.tokenizer.name r.source (r.compile engine)
    ∃ n ≤ 3, run engine ⟨cache, [⟨r :: rs, .lookup, answers⟩]⟩ (List.replicate n (.thread 0))
      = ⟨made.2, [⟨rs, .lookup, answers ++ [(r, made.1)]⟩]⟩ := by
  intro made
  cases got : cache.get? r.tokenizer.name r.source with
  | mk found cache' =>
    cases found with
    | some p =>
      refine ⟨1, by decide, ?_⟩
      simp [made, run, step, Thread.step, Cache.getOrMake, got]
    | none =>
      cases compiled : r.compile engine with
      | error fault =>
        refine ⟨2, by decide, ?_⟩
        simp [made, run, step, Thread.step, Cache.getOrMake, List.replicate, got, compiled]
      | ok p =>
        refine ⟨3, by decide, ?_⟩
        simp [made, run, step, Thread.step, Cache.getOrMake, List.replicate, got, compiled,
          Request.source_of_compile compiled]

/-- Each thread gets what comes of its requests without a cache, within three turns for each of them,
and the pattern is written as it was asked for. What does not compile adds no values, and there is
never too much in the cache. -/
theorem answers_eq_compile (engine : Expression.Engine) (capacity : Nat)
    (programs : List (List Request)) (turns : List Turn)
    (consistent : Request.Consistent programs.flatten) :
    let pool := (start capacity programs).run engine turns
    pool.cache.size ≤ capacity
      ∧ (∀ r ∈ programs.flatten, ∀ fault, r.compile engine = .error fault →
          pool.cache.contains r.tokenizer.name r.source = false)
      ∧ ∀ number program, programs[number]? = some program →
          ∃ t, pool.threads[number]? = some t
            ∧ t.answers.map (·.1) ++ t.pending = program
            ∧ (3 * program.length ≤ turns.count (.thread number) → t.pending = [])
            ∧ (∀ a ∈ t.answers, a.2 = a.1.compile engine
                ∧ ∀ p, a.2 = .ok p → p.source = a.1.source)
            ∧ ∀ r ∈ t.pending.head?, ∀ fault, r.compile engine = .error fault →
                (pool.step engine (.thread number)).cache.entries = pool.cache.entries := by
  intro pool
  have sound : pool.Sound engine capacity programs turns :=
    (sound_start engine capacity programs).run consistent turns
  refine ⟨sound.size_le, fun r mem fault faulty => sound.contains_eq_false mem faulty, ?_⟩
  intro number program asked
  obtain ⟨t, at_number, serves, left⟩ := sound.exists_thread asked
  refine ⟨t, at_number, serves.requests, ?_, ?_, ?_⟩
  · intro enough
    exact Thread.pending_of_stepsLeft (by omega)
  · intro a mem
    have right := serves.answers a mem
    exact ⟨right, fun p ok => Request.source_of_compile (right.symm.trans ok)⟩
  · intro r head fault faulty
    rw [cache_step at_number]
    exact (Thread.moves_step engine pool.cache t).entries_eq serves (subset_flatten asked) sound.all
      head faulty

/-- Two threads ask for the same tag, and one of them for a tag that does not end. -/
def twoThreads : List (List Request) :=
  [[⟨.standard, "<a>"⟩, ⟨.standard, "<a"⟩], [⟨.standard, "<a>"⟩]]

/-- Both threads miss the tag and compile it, and the cache is cleared in between. -/
def bothMiss : List Turn :=
  [.thread 0, .thread 1, .thread 1, .thread 0, .thread 0, .clear, .thread 1, .thread 0, .thread 0,
    .thread 0]

theorem answers_twoThreads :
    Request.Consistent twoThreads.flatten
      ∧ ∃ t, ((start 1 twoThreads).run Expression.standard bothMiss).threads[0]? = some t
        ∧ t.answers.map (fun a => (a.1.source, a.2.isOk)) = [("<a>", true), ("<a", false)] := by
  have standard : ∀ r ∈ twoThreads.flatten, r.tokenizer = .standard := by simp [twoThreads]
  have consistent : Request.Consistent twoThreads.flatten := by
    intro r mem r' mem' _
    rw [standard r mem, standard r' mem']
  refine ⟨consistent, ?_⟩
  obtain ⟨-, -, threads⟩ :=
    answers_eq_compile Expression.standard 1 twoThreads bothMiss consistent
  obtain ⟨t, at_zero, requests, finished, right, -⟩ := threads 0 _ rfl
  rw [finished (by decide), List.append_nil] at requests
  refine ⟨t, at_zero, ?_⟩
  calc
    t.answers.map (fun a => (a.1.source, a.2.isOk))
        = (t.answers.map (·.1)).map fun r => (r.source, (r.compile Expression.standard).isOk) := by
      rw [List.map_map]
      apply List.map_congr_left
      intro a mem
      rw [(right a mem).1]
      rfl
    _ = [("<a>", true), ("<a", false)] := by
      rw [requests]
      decide +kernel

end Pool

end SpanSearch
