/-! # Tables

A table gives each of finitely many keys, which are texts, one value. Its entries are in ascending
order of their keys, so two tables with the same entries are equal.
-/

namespace SpanSearch

/-- Entries in ascending order of their keys. -/
def Ascending (entries : List (String × α)) : Prop := entries.Pairwise (·.1 < ·.1)

instance (entries : List (String × α)) : Decidable (Ascending entries) :=
  inferInstanceAs (Decidable (entries.Pairwise _))

/-- Finitely many keys, each with a value. -/
structure Table (α : Type) where
  entries : List (String × α)
  ascending : Ascending entries
  deriving DecidableEq

namespace Table

/-- The entries with the value of one key set. -/
def insertEntry (key : String) (value : α) : List (String × α) → List (String × α)
  | [] => [(key, value)]
  | (k, v) :: rest =>
    if key = k then (key, value) :: rest
    else if key < k then (key, value) :: (k, v) :: rest
    else (k, v) :: insertEntry key value rest

theorem mem_insertEntry {key : String} {value : α} {entries : List (String × α)} {e : String × α}
    (h : e ∈ insertEntry key value entries) : e = (key, value) ∨ e ∈ entries := by
  induction entries with
  | nil => simpa [insertEntry] using h
  | cons head rest ih =>
    simp only [insertEntry] at h
    split at h
    · simp only [List.mem_cons] at h ⊢
      exact h.imp_right Or.inr
    · split at h
      · simpa using h
      · simp only [List.mem_cons] at h ⊢
        rcases h with h | h
        · exact .inr (.inl h)
        · exact (ih h).imp_right Or.inr

theorem ascending_insertEntry (key : String) (value : α) {entries : List (String × α)}
    (h : Ascending entries) : Ascending (insertEntry key value entries) := by
  induction entries with
  | nil => simp [insertEntry, Ascending]
  | cons head rest ih =>
    obtain ⟨above, tail⟩ := List.pairwise_cons.1 h
    simp only [insertEntry]
    split
    · next same => exact List.pairwise_cons.2 ⟨fun e he => same ▸ above e he, tail⟩
    · next differ =>
      split
      · next below =>
        refine List.pairwise_cons.2 ⟨fun e he => ?_, h⟩
        rcases List.mem_cons.1 he with rfl | he
        · exact below
        · exact String.lt_trans below (above e he)
      · next notBelow =>
        refine List.pairwise_cons.2 ⟨fun e he => ?_, ih tail⟩
        rcases mem_insertEntry he with rfl | he
        · exact Decidable.byContradiction fun notAbove =>
            differ (String.le_antisymm (String.not_lt.1 notAbove) (String.not_lt.1 notBelow))
        · exact above e he

/-- The table without entries. -/
def empty : Table α := ⟨[], List.Pairwise.nil⟩

instance : Inhabited (Table α) := ⟨empty⟩

/-- The table with the value of one key set. -/
def insert (table : Table α) (key : String) (value : α) : Table α :=
  ⟨insertEntry key value table.entries, ascending_insertEntry key value table.ascending⟩

/-- The table of a list of entries, in which a later entry overrides an earlier one. -/
def ofList (entries : List (String × α)) : Table α :=
  entries.foldl (fun table e => table.insert e.1 e.2) empty

/-- The value of a key, if it has one. -/
def get? (table : Table α) (key : String) : Option α := table.entries.lookup key

theorem lookup_cons (key k : String) (value : α) (entries : List (String × α)) :
    ((k, value) :: entries).lookup key = if key = k then some value else entries.lookup key := by
  rw [List.lookup_cons]
  by_cases same : key = k
  · simp [same]
  · rw [beq_false_of_ne same, if_neg same]

theorem lookup_insertEntry (key key' : String) (value : α) (entries : List (String × α)) :
    (insertEntry key value entries).lookup key'
      = if key' = key then some value else entries.lookup key' := by
  induction entries with
  | nil => exact lookup_cons key' key value []
  | cons entry rest ih =>
    obtain ⟨k, v⟩ := entry
    rw [insertEntry]
    split
    · next here =>
      subst here
      rw [lookup_cons, lookup_cons]
      split <;> rfl
    · next other =>
      split
      · rw [lookup_cons]
      · rw [lookup_cons, lookup_cons, ih]
        by_cases same : key' = key
        · rw [if_neg (same ▸ other), if_pos same, if_pos same]
        · rw [if_neg same, if_neg same]

/-- The value of a key after one key was set. -/
@[simp] theorem get?_insert (table : Table α) (key key' : String) (value : α) :
    (table.insert key value).get? key' = if key' = key then some value else table.get? key' :=
  lookup_insertEntry key key' value table.entries

/-- Whether the key has a value. -/
def contains (table : Table α) (key : String) : Bool := (table.get? key).isSome

/-- The table without one key. -/
def erase (table : Table α) (key : String) : Table α :=
  ⟨table.entries.filter (·.1 != key), table.ascending.filter _⟩

/-- The keys in ascending order. -/
def keys (table : Table α) : List String := table.entries.map (·.1)

/-- Whether the table has no entries. -/
def isEmpty (table : Table α) : Bool := table.entries.isEmpty

end Table

/-- A set of texts. -/
abbrev TextSet := Table Unit

namespace TextSet

/-- The set with one text added. -/
def add (set : TextSet) (text : String) : TextSet := set.insert text ()

/-- The set of the texts of a list. -/
def ofTexts (texts : List String) : TextSet := texts.foldl add Table.empty

end TextSet

end SpanSearch
