import SpanSearch.Cache
import SpanSearch.Proofs.Keyed

/-! # Entries of caches

What is true of all values in a cache, each under its key, stays true as long as it is true of those
that are put in. There are never more of them than the capacity allows. This does not rest on the order
of times, which wrap around in the end: a value that is put in has its use put in with it, so that what
is too much can always be taken out.
-/

namespace SpanSearch.Cache

variable {α : Type} {cache : Cache α} {tokenizer source : String} {value : α}
  {P : Key → α → Prop}

/-- What a lookup comes to: either nothing is found and the entries stay as they are, or the value of
an entry is found and the times of use change. -/
theorem get?_cases (cache : Cache α) (tokenizer source : String) :
    (cache.get? tokenizer source).2.capacity = cache.capacity
      ∧ ((cache.get? tokenizer source).1 = none
          ∧ (cache.get? tokenizer source).2.entries = cache.entries
        ∨ ∃ e ∈ cache.entries, e.key = ⟨tokenizer, source⟩
          ∧ (cache.get? tokenizer source).1 = some e.value
          ∧ ∃ time, (cache.get? tokenizer source).2.entries
            = cache.entries.map fun e' =>
              if e'.key = ⟨tokenizer, source⟩ then { e' with lastUse := time } else e') := by
  by_cases large : cache.capacity = 0
  · rw [get?, if_pos large]
    exact ⟨rfl, .inl ⟨rfl, rfl⟩⟩
  · cases found : cache.find? ⟨tokenizer, source⟩ with
    | none =>
      rw [get?_of_none large found]
      exact ⟨rfl, .inl ⟨rfl, rfl⟩⟩
    | some e =>
      have same : e.key = ⟨tokenizer, source⟩ := by simpa using List.find?_some found
      rw [get?_of_some large found, touch_of_some found]
      exact ⟨rfl, .inr ⟨e, List.mem_of_find?_eq_some found, same, rfl, _, rfl⟩⟩

/-- What is taken out is some of the entries. -/
theorem evict_sublist (capacity : Nat) (entries : List (Entry α)) (uses : List Use) :
    (evict capacity entries uses).1.Sublist entries := by
  induction uses generalizing entries with
  | nil => exact List.Sublist.refl _
  | cons use uses ih =>
    rw [evict]
    split
    · exact (ih _).trans List.filter_sublist
    · exact List.Sublist.refl _

/-! ## Values -/

/-- Whether something is true of every value under its key. -/
def All (P : Key → α → Prop) (cache : Cache α) : Prop := ∀ e ∈ cache.entries, P e.key e.value

namespace All

theorem ofCapacity (capacity : Nat) : (ofCapacity capacity : Cache α).All P := nofun

theorem clear (cache : Cache α) : cache.clear.All P := nofun

theorem get (all : cache.All P) (tokenizer source : String) :
    (cache.get? tokenizer source).2.All P := by
  obtain ⟨-, ⟨-, same⟩ | ⟨_, -, -, -, time, changed⟩⟩ := cache.get?_cases tokenizer source
  · rw [All, same]
    exact all
  · rw [All, changed, List.forall_mem_map]
    intro e mem
    split
    · exact all e mem
    · exact all e mem

/-- It is true of what is found. -/
theorem of_get (all : cache.All P) (got : (cache.get? tokenizer source).1 = some value) :
    P ⟨tokenizer, source⟩ value := by
  obtain ⟨-, ⟨none, -⟩ | ⟨e, mem, same, some, -⟩⟩ := cache.get?_cases tokenizer source
  · rw [none] at got
    cases got
  · rw [some] at got
    cases got
    exact same ▸ all e mem

/-- There is no value for a key for which it would be true of none. -/
theorem contains_eq_false (all : cache.All P) (none : ∀ value, ¬ P ⟨tokenizer, source⟩ value) :
    cache.contains tokenizer source = false := by
  rw [contains, find?, Option.isSome_eq_false_iff, Option.isNone_iff_eq_none, List.find?_eq_none]
  intro e mem same
  exact none e.value (eq_of_beq same ▸ all e mem)

theorem insert (all : cache.All P) (new : P ⟨tokenizer, source⟩ value) :
    (cache.insert tokenizer source value).All P := by
  rw [Cache.insert]
  split
  · exact all
  · intro e mem
    rcases List.mem_cons.1 ((evict_sublist _ _ _).subset mem) with rfl | mem
    · exact new
    · exact all e (List.mem_filter.1 mem).1

end All

/-- Where nothing is found the entries stay as they are. -/
theorem entries_get_of_none (none : (cache.get? tokenizer source).1 = .none) :
    (cache.get? tokenizer source).2.entries = cache.entries := by
  obtain ⟨-, ⟨-, same⟩ | ⟨_, -, -, some, -⟩⟩ := cache.get?_cases tokenizer source
  · exact same
  · rw [none] at some
    cases some

/-! ## Room -/

theorem size_get (cache : Cache α) (tokenizer source : String) :
    (cache.get? tokenizer source).2.size = cache.size := by
  obtain ⟨-, ⟨-, same⟩ | ⟨_, -, -, -, time, changed⟩⟩ := cache.get?_cases tokenizer source
  · rw [size, same, size]
  · rw [size, changed, List.length_map, size]

theorem capacity_insert (cache : Cache α) (tokenizer source : String) (value : α) :
    (cache.insert tokenizer source value).capacity = cache.capacity := by
  rw [Cache.insert]
  split <;> rfl

theorem Use.mem_enter (use : Use) (uses : List Use) : use ∈ Use.enter use uses := by
  induction uses with
  | nil => exact List.mem_singleton_self use
  | cons u uses ih =>
    rw [enter]
    split
    · exact List.mem_cons_self
    · split
      · exact List.mem_cons_self
      · exact List.mem_cons_of_mem u ih

/-- One value that is too much goes, as long as the use of some value is kept. -/
theorem length_evict_le {capacity : Nat} {entries : List (Entry α)} {uses : List Use}
    (length_le : entries.length ≤ capacity + 1)
    (used : ∃ e ∈ entries, ∃ use ∈ uses, use.key = e.key) :
    (evict capacity entries uses).1.length ≤ capacity := by
  induction uses generalizing entries with
  | nil =>
    obtain ⟨_, -, _, mem, -⟩ := used
    cases mem
  | cons u uses ih =>
    rw [evict]
    split
    · next full =>
      by_cases gone : ∃ e ∈ entries, e.key = u.key
      · obtain ⟨e, mem, same⟩ := gone
        have shorter : (entries.filter (·.key != u.key)).length < entries.length :=
          List.length_filter_lt_length_iff_exists.2 ⟨e, mem, by simp [same]⟩
        have left := (evict_sublist capacity (entries.filter (·.key != u.key)) uses).length_le
        omega
      · -- the first use is that of no value, so the one that is kept comes later
        have same : entries.filter (·.key != u.key) = entries :=
          Keyed.filter_of_others fun e mem same => gone ⟨e, mem, same⟩
        rw [same]
        obtain ⟨e, mem, use, use_mem, key_eq⟩ := used
        rcases List.mem_cons.1 use_mem with rfl | use_mem
        · exact absurd ⟨e, mem, key_eq.symm⟩ gone
        · exact ih length_le ⟨e, mem, use, use_mem, key_eq⟩
    · next room => exact Nat.le_of_not_lt room

theorem size_insert_le (size_le : cache.size ≤ cache.capacity) (tokenizer source : String)
    (value : α) : (cache.insert tokenizer source value).size ≤ cache.capacity := by
  rw [Cache.insert]
  split
  · exact size_le
  · apply length_evict_le
    · exact Nat.succ_le_succ (Nat.le_trans (List.length_filter_le _ _) size_le)
    · exact ⟨_, List.mem_cons_self, _, Use.mem_enter _ _, rfl⟩

end SpanSearch.Cache
