import Mathlib.Data.List.Induction
import SpanSearch.Cache
import SpanSearch.Proofs.Keyed

/-! # Rankings of caches

A cache keeps its values and their last uses apart. The two belong together just when there is a
ranking: a list of the entries, that with the latest use first, of which the one is a permutation and
the other the reverse. What is taken out, put in or too much is so in both of them at once.
-/

namespace SpanSearch.Cache

variable {α : Type}

/-- The last use of an entry. -/
def Entry.use (e : Entry α) : Use := ⟨e.lastUse, e.key⟩

/-- Whether entries and uses are those of a ranking. -/
structure Ranks (ranking entries : List (Entry α)) (uses : List Use) : Prop where
  entries : entries.Perm ranking
  uses : uses = (ranking.map Entry.use).reverse
  latest : ranking.Pairwise fun a b => b.lastUse < a.lastUse
  distinct : (ranking.map (·.key)).Nodup

theorem ranks_nil : Ranks ([] : List (Entry α)) [] [] := ⟨.nil, rfl, .nil, .nil⟩

/-- A use that is later than the others comes last. -/
theorem Use.enter_of_later {use : Use} {uses : List Use} (later : ∀ u ∈ uses, u.time < use.time) :
    Use.enter use uses = uses ++ [use] := by
  induction uses with
  | nil => rfl
  | cons u uses ih =>
    obtain ⟨first, rest⟩ := List.forall_mem_cons.1 later
    rw [enter, if_neg (by omega), if_neg (by omega), ih rest, List.cons_append]

/-- To change the last use of an entry comes to the same as to put it in anew. -/
theorem perm_touched {entries : List (Entry α)} {e : Entry α} (time : Nat)
    (distinct : (entries.map (·.key)).Nodup) (mem : e ∈ entries) :
    (entries.map fun e' => if e'.key = e.key then { e' with lastUse := time } else e').Perm
      ({ e with lastUse := time } :: entries.filter (·.key != e.key)) := by
  obtain ⟨front, back, rfl⟩ := List.append_of_mem mem
  rw [Keyed.map_split distinct (fun e => { e with lastUse := time }), Keyed.filter_split distinct]
  exact List.perm_middle

namespace Ranks

variable {ranking entries : List (Entry α)} {uses : List Use} {e e' : Entry α} {key : Key}

theorem nodup_keys (ranks : Ranks ranking entries uses) : (entries.map (·.key)).Nodup :=
  (ranks.entries.map _).nodup_iff.2 ranks.distinct

theorem eq_of_lastUse (ranks : Ranks ranking entries uses) (mem : e ∈ ranking)
    (mem' : e' ∈ ranking) (same : e.lastUse = e'.lastUse) : e = e' := by
  have distinct : (ranking.map (·.lastUse)).Nodup := by
    rw [List.nodup_iff_pairwise_ne, List.pairwise_map]
    exact ranks.latest.imp fun below => Nat.ne_of_gt below
  exact List.inj_on_of_nodup_map distinct mem mem' same

theorem find?_eq_some_iff (ranks : Ranks ranking entries uses) :
    entries.find? (·.key == key) = some e ↔ e ∈ ranking ∧ e.key = key := by
  rw [Keyed.find?_eq_some_iff ranks.nodup_keys, ranks.entries.mem_iff]

/-- A value is found where it is ranked. -/
theorem find?_eq (ranks : Ranks ranking entries uses) (key : Key) :
    entries.find? (·.key == key) = ranking.find? (·.key == key) := by
  apply Option.ext
  intro e
  rw [ranks.find?_eq_some_iff, Keyed.find?_eq_some_iff ranks.distinct]

/-- A use is kept just when its entry is. -/
theorem mem_uses_iff (ranks : Ranks ranking entries uses) {use : Use} :
    use ∈ uses ↔ ∃ e ∈ entries, e.key = use.key ∧ e.lastUse = use.time := by
  rw [ranks.uses, List.mem_reverse, List.mem_map]
  constructor
  · rintro ⟨e, mem, rfl⟩
    exact ⟨e, ranks.entries.mem_iff.2 mem, rfl, rfl⟩
  · rintro ⟨e, mem, key, time⟩
    refine ⟨e, ranks.entries.mem_iff.1 mem, ?_⟩
    rw [Entry.use, key, time]

theorem length_uses (ranks : Ranks ranking entries uses) : uses.length = entries.length := by
  rw [ranks.uses, List.length_reverse, List.length_map, ranks.entries.length_eq]

theorem ascending_uses (ranks : Ranks ranking entries uses) : uses.Pairwise (·.time < ·.time) := by
  rw [ranks.uses, List.pairwise_reverse, List.pairwise_map]
  exact ranks.latest

/-- A part of a ranking ranks what is left of entries and uses. -/
theorem part (ranks : Ranks ranking entries uses) {ranking' entries' : List (Entry α)}
    {uses' : List Use} (sub : ranking'.Sublist ranking) (perm : entries'.Perm ranking')
    (uses_eq : uses' = (ranking'.map Entry.use).reverse) : Ranks ranking' entries' uses' where
  entries := perm
  uses := uses_eq
  latest := ranks.latest.sublist sub
  distinct := ranks.distinct.sublist (sub.map _)

/-- An entry is taken out with its last use. -/
theorem leave (ranks : Ranks ranking entries uses) (mem : e ∈ ranking) :
    Ranks (ranking.filter (·.key != e.key)) (entries.filter (·.key != e.key))
      (Use.leave e.lastUse uses) := by
  refine ranks.part List.filter_sublist (ranks.entries.filter _) ?_
  rw [Use.leave, ranks.uses, List.filter_reverse, List.filter_map]
  congr 2
  apply List.filter_congr
  intro e' mem'
  rw [Bool.eq_iff_iff]
  simp only [Function.comp_apply, Entry.use, bne_iff_ne, ne_eq, not_iff_not]
  constructor
  · intro same
    rw [ranks.eq_of_lastUse mem' mem same]
  · intro same
    rw [List.inj_on_of_nodup_map ranks.distinct mem' mem same]

/-- What there is of a key is taken out with its last use. -/
theorem usesBut {cache : Cache α} (ranks : Ranks ranking cache.entries cache.uses) (key : Key) :
    Ranks (ranking.filter (·.key != key)) (cache.entries.filter (·.key != key))
      (cache.usesBut key) := by
  unfold Cache.usesBut
  split
  · next none =>
    have others : ∀ e ∈ ranking, e.key ≠ key := by
      intro e mem same
      have found : cache.find? key = some e := ranks.find?_eq_some_iff.2 ⟨mem, same⟩
      rw [none] at found
      cases found
    refine ranks.part List.filter_sublist (ranks.entries.filter _) ?_
    rw [Keyed.filter_of_others others, ranks.uses]
  · next e found =>
    obtain ⟨mem, rfl⟩ := ranks.find?_eq_some_iff.1 found
    exact ranks.leave mem

theorem of_perm (ranks : Ranks ranking entries uses) {entries' : List (Entry α)}
    (perm : entries'.Perm entries) : Ranks ranking entries' uses :=
  { ranks with entries := perm.trans ranks.entries }

/-- An entry that is used later than the others gets the first rank. -/
theorem enter (ranks : Ranks ranking entries uses) (new : ∀ e' ∈ ranking, e'.key ≠ e.key)
    (later : ∀ e' ∈ ranking, e'.lastUse < e.lastUse) :
    Ranks (e :: ranking) (e :: entries) (Use.enter e.use uses) where
  entries := ranks.entries.cons e
  uses := by
    rw [List.map_cons, List.reverse_cons, ← ranks.uses]
    apply Use.enter_of_later
    rw [ranks.uses]
    intro use mem
    obtain ⟨e', mem', rfl⟩ := List.mem_map.1 (List.mem_reverse.1 mem)
    exact later e' mem'
  latest := List.pairwise_cons.2 ⟨later, ranks.latest⟩
  distinct := by
    refine List.nodup_cons.2 ⟨fun mem => ?_, ranks.distinct⟩
    obtain ⟨e', mem', same⟩ := List.mem_map.1 mem
    exact new e' mem' same

/-- An entry that is used again goes from its rank to the first one. -/
theorem touch (ranks : Ranks ranking entries uses) (mem : e ∈ ranking) {time : Nat}
    (later : ∀ e' ∈ ranking, e'.lastUse < time) :
    Ranks ({ e with lastUse := time } :: ranking.filter (·.key != e.key))
      (entries.map fun e' => if e'.key = e.key then { e' with lastUse := time } else e')
      (Use.enter ⟨time, e.key⟩ (Use.leave e.lastUse uses)) := by
  have entered := (ranks.leave mem).enter (e := { e with lastUse := time })
    (fun e' mem' => bne_iff_ne.1 (List.mem_filter.1 mem').2)
    (fun e' mem' => later e' (List.mem_filter.1 mem').1)
  exact entered.of_perm (perm_touched time ranks.nodup_keys (ranks.entries.mem_iff.2 mem))

/-- What is too much is taken out from the last rank on. -/
theorem evict (ranks : Ranks ranking entries uses) (capacity : Nat) :
    Ranks (ranking.take capacity) (Cache.evict capacity entries uses).1
      (Cache.evict capacity entries uses).2 := by
  induction ranking using List.reverseRecOn generalizing entries uses with
  | nil =>
    rw [ranks.uses, List.take_nil]
    exact ⟨ranks.entries, rfl, .nil, .nil⟩
  | append_singleton front last ih =>
    have length_eq : entries.length = front.length + 1 := by
      rw [ranks.entries.length_eq, List.length_append, List.length_singleton]
    have uses_eq : uses = last.use :: (front.map Entry.use).reverse := by
      rw [ranks.uses, List.map_append, List.reverse_append]
      rfl
    rw [uses_eq, Cache.evict]
    split
    · next full =>
      -- the last one has to go, and then so does the last one of the others
      have kept : (entries.filter (·.key != last.key)).Perm front := by
        have others : (front ++ [last]).filter (·.key != last.key) = front :=
          (Keyed.filter_split ranks.distinct).trans (List.append_nil front)
        exact others ▸ ranks.entries.filter _
      rw [List.take_append_of_le_length (by omega)]
      exact ih (ranks.part (List.sublist_append_left front _) kept rfl)
    · next room =>
      rw [List.take_of_length_le (by simp only [List.length_append, List.length_singleton]; omega)]
      exact uses_eq ▸ ranks

end Ranks

end SpanSearch.Cache
