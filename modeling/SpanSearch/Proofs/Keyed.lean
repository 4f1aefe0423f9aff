import Mathlib.Data.List.Nodup

/-! # Lists of items with keys

Where each item of a list has a key of its own, an item can be found, taken out and replaced by its
key, and the others stay as they are. The items of any list with those left out that were there
before have themselves as keys.
-/

namespace SpanSearch.Keyed

variable {α κ : Type} {key : α → κ} {items front back : List α} {a : α}

/-- The items next to one have other keys. -/
theorem others (distinct : ((front ++ a :: back).map key).Nodup) :
    (∀ b ∈ front, key b ≠ key a) ∧ ∀ b ∈ back, key b ≠ key a := by
  rw [List.map_append, List.map_cons] at distinct
  obtain ⟨-, tail, apart⟩ := List.nodup_append.1 distinct
  constructor
  · intro b mem
    exact apart _ (List.mem_map_of_mem mem) _ List.mem_cons_self
  · intro b mem same
    exact (List.nodup_cons.1 tail).1 (same ▸ List.mem_map_of_mem mem)

section

variable [BEq κ] [LawfulBEq κ]

theorem find?_eq_some_iff (distinct : (items.map key).Nodup) {k : κ} :
    items.find? (key · == k) = some a ↔ a ∈ items ∧ key a = k := by
  constructor
  · intro found
    exact ⟨List.mem_of_find?_eq_some found, by simpa using List.find?_some found⟩
  · rintro ⟨mem, rfl⟩
    obtain ⟨b, found⟩ : ∃ b, items.find? (key · == key a) = some b :=
      Option.isSome_iff_exists.1 (List.find?_isSome.2 ⟨a, mem, beq_self_eq_true _⟩)
    have same : key b = key a := by simpa using List.find?_some found
    rw [found, List.inj_on_of_nodup_map distinct (List.mem_of_find?_eq_some found) mem same]

theorem filter_of_others {k : κ} (others : ∀ b ∈ items, key b ≠ k) :
    items.filter (key · != k) = items := by
  apply List.filter_eq_self.2
  intro b mem
  exact bne_iff_ne.2 (others b mem)

/-- Taking out what has the key of an item takes out just this item. -/
theorem filter_split (distinct : ((front ++ a :: back).map key).Nodup) :
    (front ++ a :: back).filter (key · != key a) = front ++ back := by
  obtain ⟨ahead, behind⟩ := others distinct
  rw [List.filter_append, filter_of_others ahead, List.filter_cons_of_neg (by simp),
    filter_of_others behind]

end

section

variable [DecidableEq κ]

theorem map_of_others {k : κ} (change : α → α) (others : ∀ b ∈ items, key b ≠ k) :
    (items.map fun b => if key b = k then change b else b) = items := by
  calc
    (items.map fun b => if key b = k then change b else b) = items.map id :=
      List.map_congr_left fun b mem => if_neg (others b mem)
    _ = items := List.map_id items

/-- Changing what has the key of an item changes just this item. -/
theorem map_split (distinct : ((front ++ a :: back).map key).Nodup) (change : α → α) :
    ((front ++ a :: back).map fun b => if key b = key a then change b else b)
      = front ++ change a :: back := by
  obtain ⟨ahead, behind⟩ := others distinct
  rw [List.map_append, map_of_others change ahead, List.map_cons, if_pos rfl,
    map_of_others change behind]

end

section

variable [BEq α]

/-- What is left out are items that were there before, so the others stay in order. -/
theorem eraseDups_sublist : (items : List α) → items.eraseDups.Sublist items
  | [] => .slnil
  | a :: items => by
    rw [List.eraseDups_cons]
    exact ((eraseDups_sublist (items.filter fun b => !b == a)).trans
      List.filter_sublist).cons_cons a
termination_by items => items.length
decreasing_by exact Nat.lt_succ_of_le (List.length_filter_le _ _)

theorem nodup_eraseDups [LawfulBEq α] : (items : List α) → items.eraseDups.Nodup
  | [] => .nil
  | a :: items => by
    rw [List.eraseDups_cons, List.nodup_cons, List.mem_eraseDups]
    exact ⟨by simp, nodup_eraseDups (items.filter fun b => !b == a)⟩
termination_by items => items.length
decreasing_by exact Nat.lt_succ_of_le (List.length_filter_le _ _)

end

end SpanSearch.Keyed
