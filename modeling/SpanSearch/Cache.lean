import SpanSearch.Offset

/-! # Caches

A cache keeps values that were made from a text for a tokenizer. It is limited in size, and what was
not used for the longest time has to go first. So a cache also keeps the last use of each of its keys,
in the order of time. Times and counts are words of 64 bits.
-/

namespace SpanSearch

/-- What a value was made from: the name of a tokenizer, and a text. -/
structure Cache.Key where
  tokenizer : String
  source : String
  deriving DecidableEq

/-- A value in a cache, with its key and the time when it was used last. -/
structure Cache.Entry (α : Type) where
  key : Cache.Key
  value : α
  lastUse : Nat

/-- The last use of a key. -/
structure Cache.Use where
  time : Nat
  key : Cache.Key
  deriving DecidableEq

/-- A cache of at most `capacity` values. A cache without capacity keeps and counts nothing. -/
structure Cache (α : Type) where
  capacity : Nat
  /-- The values, one for each key. -/
  entries : List (Cache.Entry α)
  /-- The last uses of the keys, the earliest first. -/
  uses : List Cache.Use
  /-- The time, which goes on with every use. -/
  time : Nat
  hits : Nat
  misses : Nat

namespace Cache

/-- An empty cache. -/
def ofCapacity (capacity : Nat) : Cache α := ⟨capacity, [], [], 0, 0, 0⟩

/-- The value for a key, with its last use. -/
def find? (cache : Cache α) (key : Key) : Option (Entry α) := cache.entries.find? (·.key == key)

/-- Whether there is a value for a tokenizer and a text. This is no use of it. -/
def contains (cache : Cache α) (tokenizer source : String) : Bool :=
  (cache.find? ⟨tokenizer, source⟩).isSome

/-- How many values there are. -/
def size (cache : Cache α) : Nat := cache.entries.length

/-- The uses with one more, which takes the place of another one at the same time. -/
def Use.enter (use : Use) : List Use → List Use
  | [] => [use]
  | u :: uses =>
    if use.time < u.time then use :: u :: uses
    else if use.time = u.time then use :: uses
    else u :: enter use uses

/-- The uses without the one at a time. -/
def Use.leave (time : Nat) (uses : List Use) : List Use := uses.filter (·.time != time)

/-- The value for a key, which is thereby used. Time goes on also if there is none. -/
def touch (cache : Cache α) (key : Key) : Option α × Cache α :=
  let time := Offset.add cache.time 1
  match cache.find? key with
  | none => (none, { cache with time := time })
  | some entry =>
    (some entry.value,
      { cache with
        entries := cache.entries.map fun e => if e.key = key then { e with lastUse := time } else e
        uses := Use.enter ⟨time, key⟩ (Use.leave entry.lastUse cache.uses)
        time := time })

/-- The value for a tokenizer and a text. It is counted whether there is one. -/
def get? (cache : Cache α) (tokenizer source : String) : Option α × Cache α :=
  if cache.capacity = 0 then (none, cache)
  else
    match cache.touch ⟨tokenizer, source⟩ with
    | (some value, cache) => (some value, { cache with hits := Offset.add cache.hits 1 })
    | (none, cache) => (none, { cache with misses := Offset.add cache.misses 1 })

variable {cache : Cache α} {key : Key}

theorem touch_of_none (none : cache.find? key = none) :
    cache.touch key = (.none, { cache with time := Offset.add cache.time 1 }) := by
  simp only [touch, none]

theorem touch_of_some {e : Entry α} (found : cache.find? key = some e) :
    cache.touch key
      = (some e.value,
        { cache with
          entries := cache.entries.map fun e' =>
            if e'.key = key then { e' with lastUse := Offset.add cache.time 1 } else e'
          uses := Use.enter ⟨Offset.add cache.time 1, key⟩ (Use.leave e.lastUse cache.uses)
          time := Offset.add cache.time 1 }) := by
  simp only [touch, found]

theorem get?_of_none (large : cache.capacity ≠ 0) (none : cache.find? key = none) :
    cache.get? key.tokenizer key.source
      = (.none,
        { cache with
          time := Offset.add cache.time 1
          misses := Offset.add cache.misses 1 }) := by
  simp only [get?, large, touch_of_none none, if_false]

theorem get?_of_some (large : cache.capacity ≠ 0) {e : Entry α} (found : cache.find? key = some e) :
    cache.get? key.tokenizer key.source
      = (some e.value,
        { (cache.touch key).2 with hits := Offset.add cache.hits 1 }) := by
  simp only [get?, large, touch_of_some found, if_false]

/-- Takes out the values that were not used for the longest time, as long as there are too many. -/
def evict (capacity : Nat) : List (Entry α) → List Use → List (Entry α) × List Use
  | entries, [] => (entries, [])
  | entries, use :: uses =>
    if capacity < entries.length then evict capacity (entries.filter (·.key != use.key)) uses
    else (entries, use :: uses)

/-- The last uses without that of a key. -/
def usesBut (cache : Cache α) (key : Key) : List Use :=
  match cache.find? key with
  | none => cache.uses
  | some old => Use.leave old.lastUse cache.uses

/-- Puts a value in for a tokenizer and a text, where it takes the place of another one. -/
def insert (cache : Cache α) (tokenizer source : String) (value : α) : Cache α :=
  if cache.capacity = 0 then cache
  else
    let key : Key := ⟨tokenizer, source⟩
    let time := Offset.add cache.time 1
    let entries := ⟨key, value, time⟩ :: cache.entries.filter (·.key != key)
    let kept := evict cache.capacity entries (Use.enter ⟨time, key⟩ (cache.usesBut key))
    { cache with entries := kept.1, uses := kept.2, time := time }

/-- The value for a tokenizer and a text, which is made and put in if there is none. -/
def getOrMake (cache : Cache α) (tokenizer source : String) (make : Except ε α) :
    Except ε α × Cache α :=
  match cache.get? tokenizer source with
  | (some value, cache) => (.ok value, cache)
  | (none, cache) =>
    match make with
    | .ok value => (.ok value, cache.insert tokenizer source value)
    | .error fault => (.error fault, cache)

/-- The cache without its values. Time and counts go on. -/
def clear (cache : Cache α) : Cache α := { cache with entries := [], uses := [] }

end Cache

end SpanSearch
