import SpanSearch.Proofs.Cache.Ranking

/-! # Caches as lists of what was used last

For whoever uses it, a cache is a list of keys with their values, the one that was used last first,
of which as many are kept as there is capacity for. As long as time does not wrap, all answers of a
cache are those of such a list.
-/

namespace SpanSearch

/-- What is asked of a cache. -/
inductive Cache.Call (α : Type) where
  | get (key : Cache.Key)
  | insert (key : Cache.Key) (value : α)
  | contains (key : Cache.Key)
  | clear

/-- What is answered to a call. -/
inductive Cache.Answer (α : Type) where
  | found (value : Option α)
  | isThere (isThere : Bool)
  | done
  deriving DecidableEq

/-- An answer, with the size and the counts after the call. -/
structure Cache.Reply (α : Type) where
  answer : Cache.Answer α
  size : Nat
  hits : Nat
  misses : Nat
  deriving DecidableEq

/-- Keys with their values, the one that was used last first. -/
structure Recent (α : Type) where
  capacity : Nat
  items : List (Cache.Key × α)
  hits : Nat
  misses : Nat

namespace Recent

variable {α : Type}

/-- The empty list. -/
def ofCapacity (capacity : Nat) : Recent α := ⟨capacity, [], 0, 0⟩

/-- The value of a key. -/
def find? (recent : Recent α) (key : Cache.Key) : Option α :=
  (recent.items.find? (·.1 == key)).map (·.2)

/-- The items with that of a key put in front. -/
def putFirst (recent : Recent α) (key : Cache.Key) (value : α) : List (Cache.Key × α) :=
  (key, value) :: recent.items.filter (·.1 != key)

/-- The value of a key, which moves to the front. Nothing is counted without capacity. -/
def get (recent : Recent α) (key : Cache.Key) : Option α × Recent α :=
  if recent.capacity = 0 then (none, recent)
  else
    match recent.find? key with
    | none => (none, { recent with misses := recent.misses + 1 })
    | some value =>
      (some value, { recent with items := recent.putFirst key value, hits := recent.hits + 1 })

/-- Puts a value in front, and drops from the end what there is no capacity for. -/
def insert (recent : Recent α) (key : Cache.Key) (value : α) : Recent α :=
  { recent with items := (recent.putFirst key value).take recent.capacity }

/-- The list after a call, with the answer. -/
def call (recent : Recent α) : Cache.Call α → Cache.Answer α × Recent α
  | .get key => ((recent.get key).1 |> .found, (recent.get key).2)
  | .insert key value => (.done, recent.insert key value)
  | .contains key => (.isThere (recent.find? key).isSome, recent)
  | .clear => (.done, { recent with items := [] })

/-- The list after several calls. -/
def after (recent : Recent α) (calls : List (Cache.Call α)) : Recent α :=
  calls.foldl (fun recent call => (recent.call call).2) recent

/-- The replies to several calls. -/
def replies (recent : Recent α) : List (Cache.Call α) → List (Cache.Reply α)
  | [] => []
  | call :: calls =>
    let (answer, recent) := recent.call call
    ⟨answer, recent.items.length, recent.hits, recent.misses⟩ :: recent.replies calls

end Recent

namespace Cache

variable {α : Type}

/-- The cache after a call, with the answer. -/
def call (cache : Cache α) : Call α → Answer α × Cache α
  | .get key =>
    let (value, cache) := cache.get? key.tokenizer key.source
    (.found value, cache)
  | .insert key value => (.done, cache.insert key.tokenizer key.source value)
  | .contains key => (.isThere (cache.contains key.tokenizer key.source), cache)
  | .clear => (.done, cache.clear)

/-- The cache after several calls. -/
def after (cache : Cache α) (calls : List (Call α)) : Cache α :=
  calls.foldl (fun cache call => (cache.call call).2) cache

/-- The replies to several calls. -/
def replies (cache : Cache α) : List (Call α) → List (Reply α)
  | [] => []
  | call :: calls =>
    let (answer, cache) := cache.call call
    ⟨answer, cache.size, cache.hits, cache.misses⟩ :: cache.replies calls

/-- Whether the entries of a cache and the uses that it keeps mirror each other. -/
structure Mirrored (cache : Cache α) : Prop where
  keys : (cache.entries.map (·.key)).Nodup
  ascending : cache.uses.Pairwise (·.time < ·.time)
  length : cache.uses.length = cache.entries.length
  mirror : ∀ use, use ∈ cache.uses ↔ ∃ e ∈ cache.entries, e.key = use.key ∧ e.lastUse = use.time

/-- An entry without the time of its use. -/
def Entry.item (e : Entry α) : Key × α := (e.key, e.value)

/-- Whether a cache, after `time` calls at most, is in step with a list. -/
structure Follows (cache : Cache α) (recent : Recent α) (ranking : List (Entry α)) (time : Nat) :
    Prop where
  ranks : Ranks ranking cache.entries cache.uses
  past : ∀ e ∈ ranking, e.lastUse ≤ cache.time
  items : recent.items = ranking.map Entry.item
  capacity : recent.capacity = cache.capacity
  room : ranking.length ≤ cache.capacity
  hits : recent.hits = cache.hits
  misses : recent.misses = cache.misses
  time_le : cache.time ≤ time
  count_le : cache.hits + cache.misses ≤ time

variable {cache : Cache α} {recent : Recent α} {ranking : List (Entry α)} {time : Nat} {key : Key}
  {value : α}

theorem follows_ofCapacity (capacity : Nat) :
    (ofCapacity capacity : Cache α).Follows (.ofCapacity capacity) [] 0 where
  ranks := ranks_nil
  past := nofun
  items := rfl
  capacity := rfl
  room := Nat.zero_le _
  hits := rfl
  misses := rfl
  time_le := Nat.le_refl _
  count_le := Nat.le_refl _

namespace Follows

theorem mirrored (follows : cache.Follows recent ranking time) : cache.Mirrored where
  keys := follows.ranks.nodup_keys
  ascending := follows.ranks.ascending_uses
  length := follows.ranks.length_uses
  mirror _ := follows.ranks.mem_uses_iff

theorem size_eq (follows : cache.Follows recent ranking time) :
    cache.size = recent.items.length := by
  rw [follows.items, List.length_map, size, follows.ranks.entries.length_eq]

theorem nodup_items (follows : cache.Follows recent ranking time) :
    (recent.items.map (·.1)).Nodup := by
  rw [follows.items, List.map_map]
  exact follows.ranks.distinct

theorem keys_uses (follows : cache.Follows recent ranking time) :
    cache.uses.map (·.key) = (recent.items.map (·.1)).reverse := by
  rw [follows.items, follows.ranks.uses, List.map_reverse, List.map_map, List.map_map]
  rfl

theorem mono (follows : cache.Follows recent ranking time) :
    cache.Follows recent ranking (time + 1) :=
  { follows with
    time_le := Nat.le_succ_of_le follows.time_le
    count_le := Nat.le_succ_of_le follows.count_le }

theorem find?_eq (follows : cache.Follows recent ranking time) (key : Key) :
    recent.find? key = (cache.find? key).map (·.value) := by
  rw [Recent.find?, follows.items, List.find?_map, Cache.find?, follows.ranks.find?_eq,
    Option.map_map]
  rfl

/-- A key goes to the front of the list as its entry goes to the first rank. -/
theorem putFirst_eq (follows : cache.Follows recent ranking time) (e : Entry α) :
    recent.putFirst e.key e.value
      = (e :: ranking.filter (·.key != e.key)).map Entry.item := by
  rw [Recent.putFirst, follows.items, List.filter_map, List.map_cons]
  rfl

/-- Time goes on by one as long as it does not wrap. -/
theorem time_eq (follows : cache.Follows recent ranking time) (few : time + 1 < Offset.limit) :
    Offset.add cache.time 1 = cache.time + 1 :=
  Offset.add_eq (by have := follows.time_le; omega)

/-- What is used now is used later than all before. -/
theorem later (follows : cache.Follows recent ranking time) (few : time + 1 < Offset.limit) :
    ∀ e ∈ ranking, e.lastUse < Offset.add cache.time 1 := by
  intro e mem
  have := follows.past e mem
  rw [follows.time_eq few]
  omega

theorem past_cons (follows : cache.Follows recent ranking time) (few : time + 1 < Offset.limit)
    {e : Entry α} (now : e.lastUse = Offset.add cache.time 1) {others : List (Entry α)}
    (others_sub : others ⊆ ranking) :
    ∀ e' ∈ e :: others, e'.lastUse ≤ Offset.add cache.time 1 := by
  intro e' mem
  rcases List.mem_cons.1 mem with rfl | mem
  · exact Nat.le_of_eq now
  · exact Nat.le_of_lt (follows.later few e' (others_sub mem))

theorem get_none (follows : cache.Follows recent ranking time) (few : time + 1 < Offset.limit)
    (large : cache.capacity ≠ 0) (none : cache.find? key = none) :
    (cache.get? key.tokenizer key.source).2.Follows (recent.get key).2 ranking (time + 1) := by
  have time_eq := follows.time_eq few
  have time_le := follows.time_le
  have count_le := follows.count_le
  have miss : Offset.add cache.misses 1 = cache.misses + 1 := Offset.add_eq (by omega)
  have list_eq : recent.get key = (.none, { recent with misses := recent.misses + 1 }) := by
    rw [Recent.get, follows.capacity, if_neg large, follows.find?_eq, none]
    rfl
  rw [get?_of_none large none, list_eq, miss, time_eq]
  exact { follows with
    past := fun e mem => Nat.le_succ_of_le (follows.past e mem)
    misses := congrArg (· + 1) follows.misses
    time_le := Nat.succ_le_succ time_le
    count_le := Nat.succ_le_succ count_le }

theorem get_some (follows : cache.Follows recent ranking time) (few : time + 1 < Offset.limit)
    (large : cache.capacity ≠ 0) {e : Entry α} (found : cache.find? e.key = some e) :
    (cache.get? e.key.tokenizer e.key.source).2.Follows (recent.get e.key).2
      ({ e with lastUse := Offset.add cache.time 1 } :: ranking.filter (·.key != e.key))
      (time + 1) := by
  have time_le := follows.time_le
  have count_le := follows.count_le
  have hit : Offset.add cache.hits 1 = cache.hits + 1 := Offset.add_eq (by omega)
  obtain ⟨mem, -⟩ := follows.ranks.find?_eq_some_iff.1 found
  have list_eq : recent.get e.key
      = (some e.value,
        { recent with items := recent.putFirst e.key e.value, hits := recent.hits + 1 }) := by
    rw [Recent.get, follows.capacity, if_neg large, follows.find?_eq, found]
    rfl
  have shorter : (ranking.filter (·.key != e.key)).length < ranking.length :=
    List.length_filter_lt_length_iff_exists.2 ⟨e, mem, by simp⟩
  have room := follows.room
  rw [get?_of_some large found, touch_of_some found, list_eq, hit]
  exact {
    ranks := follows.ranks.touch mem (follows.later few)
    past := follows.past_cons few rfl List.filter_sublist.subset
    items := follows.putFirst_eq { e with lastUse := Offset.add cache.time 1 }
    capacity := follows.capacity
    room := Nat.le_trans shorter room
    hits := congrArg (· + 1) follows.hits
    misses := follows.misses
    time_le := by
      dsimp only
      rw [follows.time_eq few]
      exact Nat.succ_le_succ time_le
    count_le := by
      dsimp only
      omega }

theorem get (follows : cache.Follows recent ranking time) (few : time + 1 < Offset.limit)
    (key : Key) :
    (cache.get? key.tokenizer key.source).1 = (recent.get key).1
      ∧ ∃ ranking, (cache.get? key.tokenizer key.source).2.Follows (recent.get key).2 ranking
        (time + 1) := by
  by_cases large : cache.capacity = 0
  · rw [get?, if_pos large, Recent.get, if_pos (follows.capacity.trans large)]
    exact ⟨rfl, ranking, follows.mono⟩
  · cases found : cache.find? key with
    | none =>
      refine ⟨?_, ranking, follows.get_none few large found⟩
      rw [get?_of_none large found, Recent.get, follows.capacity, if_neg large, follows.find?_eq,
        found]
      rfl
    | some e =>
      obtain ⟨-, rfl⟩ := follows.ranks.find?_eq_some_iff.1 found
      refine ⟨?_, _, follows.get_some few large found⟩
      rw [get?_of_some large found, Recent.get, follows.capacity, if_neg large, follows.find?_eq,
        found]
      rfl

theorem insert (follows : cache.Follows recent ranking time) (few : time + 1 < Offset.limit)
    (key : Key) (value : α) :
    ∃ ranking, (cache.insert key.tokenizer key.source value).Follows (recent.insert key value)
      ranking (time + 1) := by
  by_cases large : cache.capacity = 0
  · have empty : ranking = [] := List.eq_nil_of_length_eq_zero (by have := follows.room; omega)
    have kept : (recent.putFirst key value).take recent.capacity = recent.items := by
      rw [follows.capacity, large, List.take_zero, follows.items, empty, List.map_nil]
    have list_eq : recent.insert key value = recent := by rw [Recent.insert, kept]
    rw [Cache.insert, if_pos large, list_eq]
    exact ⟨ranking, follows.mono⟩
  · let e : Entry α := ⟨key, value, Offset.add cache.time 1⟩
    have entered := (follows.ranks.usesBut key).enter (e := e)
      (fun e' mem => bne_iff_ne.1 (List.mem_filter.1 mem).2)
      (fun e' mem => follows.later few e' (List.mem_filter.1 mem).1)
    have sub : ranking.filter (·.key != key) ⊆ ranking := List.filter_sublist.subset
    have past := follows.past_cons few (e := e) rfl sub
    refine ⟨(e :: ranking.filter (·.key != key)).take cache.capacity, ?_⟩
    rw [Cache.insert, if_neg large]
    exact {
      ranks := entered.evict cache.capacity
      past := fun e' mem => past e' (List.mem_of_mem_take mem)
      items := by
        rw [Recent.insert, follows.capacity]
        exact (congrArg _ (follows.putFirst_eq e)).trans (List.map_take ..).symm
      capacity := follows.capacity
      room := List.length_take_le ..
      hits := follows.hits
      misses := follows.misses
      time_le := by
        dsimp only
        rw [follows.time_eq few]
        exact Nat.succ_le_succ follows.time_le
      count_le := Nat.le_succ_of_le follows.count_le }

theorem clear (follows : cache.Follows recent ranking time) :
    cache.clear.Follows { recent with items := [] } [] time :=
  { follows with
    ranks := ranks_nil
    past := nofun
    items := rfl
    room := Nat.zero_le _ }

/-- A call is answered as by the list, and keeps in step with it. -/
theorem call (follows : cache.Follows recent ranking time) (few : time + 1 < Offset.limit)
    (call : Call α) :
    (cache.call call).1 = (recent.call call).1
      ∧ ∃ ranking, (cache.call call).2.Follows (recent.call call).2 ranking (time + 1) := by
  cases call with
  | get key =>
    obtain ⟨same, next⟩ := follows.get few key
    exact ⟨congrArg Answer.found same, next⟩
  | insert key value => exact ⟨rfl, follows.insert few key value⟩
  | contains key =>
    refine ⟨?_, ranking, follows.mono⟩
    rw [Recent.call, follows.find?_eq, Option.isSome_map]
    rfl
  | clear => exact ⟨rfl, [], follows.clear.mono⟩

/-- All calls are answered as by the list. -/
theorem run (follows : cache.Follows recent ranking time) (calls : List (Call α))
    (few : time + calls.length < Offset.limit) :
    cache.replies calls = recent.replies calls
      ∧ ∃ ranking, (cache.after calls).Follows (recent.after calls) ranking
        (time + calls.length) := by
  induction calls generalizing cache recent ranking time with
  | nil => exact ⟨rfl, ranking, follows⟩
  | cons call calls ih =>
    rw [List.length_cons] at few
    obtain ⟨same, ranking', next⟩ := follows.call (by omega) call
    obtain ⟨replies, ranking'', last⟩ := ih next (by omega)
    constructor
    · rw [Cache.replies, Recent.replies]
      dsimp only
      rw [same, next.size_eq, ← next.hits, ← next.misses, replies]
    · refine ⟨ranking'', ?_⟩
      rw [List.length_cons, Nat.add_comm calls.length, ← Nat.add_assoc]
      exact last

end Follows

/-- Whether a call looks a value up. -/
def Call.isGet : Call α → Bool
  | get _ => true
  | _ => false

end Cache

namespace Recent

variable {α : Type}

theorem capacity_call (recent : Recent α) (call : Cache.Call α) :
    (recent.call call).2.capacity = recent.capacity := by
  cases call with
  | get key =>
    simp only [Recent.call, get]
    split
    · rfl
    · split <;> rfl
  | insert key value => rfl
  | contains key => rfl
  | clear => rfl

theorem capacity_after (recent : Recent α) (calls : List (Cache.Call α)) :
    (recent.after calls).capacity = recent.capacity := by
  induction calls generalizing recent with
  | nil => rfl
  | cons call calls ih => exact (ih _).trans (recent.capacity_call call)

/-- A get is counted once, unless there is no capacity. -/
theorem count_call (recent : Recent α) (call : Cache.Call α) :
    (recent.call call).2.hits + (recent.call call).2.misses
      = recent.hits + recent.misses
        + if recent.capacity = 0 then 0 else if call.isGet then 1 else 0 := by
  cases call with
  | get key =>
    simp only [Recent.call, get, Cache.Call.isGet, if_true]
    split
    · rfl
    · split
      · exact (Nat.add_assoc ..).symm
      · exact Nat.add_right_comm ..
  | insert key value => simp [Recent.call, insert, Cache.Call.isGet]
  | contains key => simp [Recent.call, Cache.Call.isGet]
  | clear => simp [Recent.call, Cache.Call.isGet]

theorem count_after (recent : Recent α) (calls : List (Cache.Call α)) :
    (recent.after calls).hits + (recent.after calls).misses
      = recent.hits + recent.misses
        + if recent.capacity = 0 then 0 else calls.countP (·.isGet) := by
  induction calls generalizing recent with
  | nil => simp [after]
  | cons call calls ih =>
    have rest := ih (recent.call call).2
    rw [capacity_call, count_call] at rest
    refine rest.trans ?_
    rw [List.countP_cons]
    split <;> omega

end Recent

namespace Cache

variable {α : Type}

/-- A cache answers as a list of what was used last does: what is used moves to the front, and what
there is no capacity for is dropped from the end. The uses that it keeps mirror its entries, in the
order of the list. -/
theorem replies_eq_recent (capacity : Nat) (calls : List (Call α))
    (few : calls.length < Offset.limit) :
    let cache : Cache α := (ofCapacity capacity).after calls
    let recent : Recent α := (Recent.ofCapacity capacity).after calls
    (ofCapacity capacity).replies calls = (Recent.ofCapacity capacity).replies calls
      ∧ (recent.items.map (·.1)).Nodup
      ∧ cache.Mirrored
      ∧ cache.uses.map (·.key) = (recent.items.map (·.1)).reverse
      ∧ cache.size ≤ capacity
      ∧ cache.hits + cache.misses = if capacity = 0 then 0 else calls.countP (·.isGet) := by
  intro cache recent
  obtain ⟨replies, ranking, follows⟩ :=
    (follows_ofCapacity capacity).run calls (by rw [Nat.zero_add]; exact few)
  refine ⟨replies, follows.nodup_items, follows.mirrored, follows.keys_uses, ?_, ?_⟩
  · have capacity_eq : cache.capacity = capacity :=
      follows.capacity.symm.trans (Recent.capacity_after _ calls)
    calc
      cache.size = ranking.length := follows.ranks.entries.length_eq
      _ ≤ cache.capacity := follows.room
      _ = capacity := capacity_eq
  · rw [← follows.hits, ← follows.misses]
    refine (Recent.count_after _ calls).trans ?_
    exact Nat.zero_add _

/-- The texts a, b and c are used in turn, where there is room for two. -/
def threeTexts : List (Call Nat) :=
  let key := Key.mk "simple"
  [.get (key "a"), .insert (key "a") 1, .insert (key "b") 2, .get (key "a"), .insert (key "c") 3,
    .contains (key "b"), .insert (key "a") 4, .get (key "c"), .clear, .get (key "a")]

theorem replies_threeTexts :
    threeTexts.length < Offset.limit
      ∧ (ofCapacity 2).replies threeTexts
        = [⟨.found none, 0, 0, 1⟩, ⟨.done, 1, 0, 1⟩, ⟨.done, 2, 0, 1⟩, ⟨.found (some 1), 2, 1, 1⟩,
            ⟨.done, 2, 1, 1⟩, ⟨.isThere false, 2, 1, 1⟩, ⟨.done, 2, 1, 1⟩,
            ⟨.found (some 3), 2, 2, 1⟩, ⟨.done, 0, 2, 1⟩, ⟨.found none, 0, 2, 2⟩] := by
  have few : threeTexts.length < Offset.limit := by decide
  exact ⟨few, (replies_eq_recent 2 threeTexts few).1.trans (by decide +kernel)⟩

end Cache

end SpanSearch
