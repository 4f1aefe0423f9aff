import Mathlib.Data.List.Perm.Basic
import SpanSearch.Proofs.Search.Attributes
import SpanSearch.Proofs.Search.Order
import SpanSearch.Search.Indexed

/-! # Searches with related lookups

What a search finds is put together from what it looks up, by choosing, listing and sorting. So a
relation between lists that these keep goes over from lookups to matches. Two such relations are of
use: that lists are in another order, and that one has what the other one has and maybe more between.
-/

namespace SpanSearch

/-! ## Relations between lists -/

/-- A relation that is kept where lists are made from lists. -/
structure Compatible (R : ∀ {α : Type}, List α → List α → Prop) : Prop where
  refl {α : Type} (l : List α) : R l l
  append {α : Type} {l l' m m' : List α} : R l l' → R m m' → R (l ++ m) (l' ++ m')
  filter {α : Type} {l l' : List α} (p : α → Bool) : R l l' → R (l.filter p) (l'.filter p)
  map {α β : Type} {l l' : List α} (f : α → β) : R l l' → R (l.map f) (l'.map f)
  flatMap {α β : Type} {l l' : List α} {f f' : α → List β} :
    R l l' → (∀ a, R (f a) (f' a)) → R (l.flatMap f) (l'.flatMap f')
  sort {α : Type} {l l' : List α} {le : α → α → Bool} :
    (∀ a b c, le a b → le b c → le a c) → (∀ a b, le a b || le b a) → R l l' →
      R (l.mergeSort le) (l'.mergeSort le)

theorem Compatible.eq : Compatible Eq where
  refl _ := rfl
  append same same' := by rw [same, same']
  filter _ same := by rw [same]
  map _ same := by rw [same]
  flatMap same each := by rw [same, funext each]
  sort _ _ same := by rw [same]

theorem Compatible.perm : Compatible List.Perm where
  refl := .refl
  append := .append
  filter _ := .filter _
  map _ := .map _
  flatMap same each := same.flatMap fun a _ => each a
  sort _ _ same := (List.mergeSort_perm ..).trans (same.trans (List.mergeSort_perm ..).symm)

section

variable {α β : Type} {l l' : List α}

theorem sublist_flatMap {f f' : α → List β} (more : l.Sublist l')
    (each : ∀ a, (f a).Sublist (f' a)) : (l.flatMap f).Sublist (l'.flatMap f') := by
  induction more with
  | slnil => exact .refl _
  | cons a _ ih =>
    rw [List.flatMap_cons]
    exact ih.trans (List.sublist_append_right ..)
  | cons_cons a _ ih =>
    rw [List.flatMap_cons, List.flatMap_cons]
    exact (each a).append ih

/-- What stays away from a list does not change the order of the others. -/
theorem sublist_mergeSort_of_sublist {le : α → α → Bool} (trans : ∀ a b c, le a b → le b c → le a c)
    (total : ∀ a b, le a b || le b a) (more : l.Sublist l') :
    (l.mergeSort le).Sublist (l'.mergeSort le) := by
  induction more with
  | slnil => exact .refl _
  | cons a _ ih =>
    obtain ⟨smaller, others, whole, rest, -⟩ := List.mergeSort_cons trans total a _
    rw [whole]
    rw [rest] at ih
    exact ih.trans ((List.Sublist.refl smaller).append (List.sublist_cons_self a others))
  | cons_cons a _ ih =>
    rw [Search.mergeSort_cons_eq trans total, Search.mergeSort_cons_eq trans total]
    exact (ih.filter _).append ((ih.filter _).cons_cons a)

theorem Compatible.sublist : Compatible List.Sublist where
  refl := .refl
  append := .append
  filter _ := .filter _
  map _ := .map _
  flatMap := sublist_flatMap
  sort := sublist_mergeSort_of_sublist

end

namespace Search

/-! ## From lookups to matches -/

/-- The scene with other lookups of annotations. -/
def Scene.withLookup (scene : Scene) (lookup : Lookup) : Scene :=
  { scene with annotations := lookup }

/-- Whether the lookups of each type that some elements ask for are related. -/
def Related (R : ∀ {α : Type}, List α → List α → Prop) (es : List Element)
    (lookup lookup' : Lookup) : Prop :=
  ∀ tag s, .atom (.tag tag) s ∈ es → ∀ start, R (lookup tag.type start) (lookup' tag.type start)

variable {R : ∀ {α : Type}, List α → List α → Prop} {scene : Scene} {lookup lookup' : Lookup}
  {es es' : List Element}

theorem Related.mono (h : Related R es lookup lookup') (sub : es' ⊆ es) :
    Related R es' lookup lookup' :=
  fun tag s mem => h tag s (sub mem)

section

variable (compatible : Compatible R)

include compatible

theorem related_blocksFrom {occurrences occurrences' : Nat → Nat → List Derivation}
    (related : ∀ count start, R (occurrences count start) (occurrences' count start))
    (bounds : Bounds) (count start : Nat) :
    R (blocksFrom occurrences bounds count start) (blocksFrom occurrences' bounds count start) := by
  induction count, start using blocksFrom.induct bounds with
  | case1 count start ih =>
    rw [blocksFrom, blocksFrom]
    apply compatible.append (compatible.refl _)
    split
    · next more =>
      exact compatible.flatMap (related count start) fun d => compatible.map _ (ih more d)
    · exact compatible.refl _

mutual

/-- What occurs at an offset is related if lookups are. -/
theorem related_occurrencesAt :
    (e : Element) → Related R e.walk scene.annotations lookup → ∀ count start,
      R (occurrencesAt scene e count start) (occurrencesAt (scene.withLookup lookup) e count start)
  | .atom a s => fun related _ start => by
    rw [occurrencesAt, occurrencesAt]
    apply compatible.map
    cases a with
    | literal | regex => exact compatible.refl _
    | tag tag =>
      have looked := related tag s (by simp [Element.walk]) start
      exact compatible.map _ (compatible.filter _ looked)
  | .sequence children s => fun related count start => by
    rw [occurrencesAt, occurrencesAt]
    have below := related.mono (List.subset_cons_self _ _)
    exact compatible.map _ (compatible.filter _ (related_rowsAt children below start))
  | .choice branches s => fun related count start => by
    rw [occurrencesAt, occurrencesAt]
    have below := related.mono (List.subset_cons_self _ _)
    exact compatible.map _ (compatible.filter _ (related_branchesAt branches below start))

theorem related_rowsAt :
    (es : List Element) → Related R (Element.walkList es) scene.annotations lookup → ∀ start,
      R (rowsAt scene es start) (rowsAt (scene.withLookup lookup) es start)
  | [] => fun _ _ => by
    rw [rowsAt, rowsAt]
    exact compatible.refl _
  | e :: es => fun related start => by
    rw [rowsAt, rowsAt]
    have here := related_occurrencesAt e (related.mono (List.subset_append_left _ _))
    have later := related_rowsAt es (related.mono (List.subset_append_right _ _))
    exact compatible.flatMap (related_blocksFrom compatible here e.bounds 0 start) fun _ =>
      compatible.map _ (later _)

theorem related_branchesAt :
    (bs : List Element) → Related R (Element.walkList bs) scene.annotations lookup → ∀ start,
      R (branchesAt scene bs start) (branchesAt (scene.withLookup lookup) bs start)
  | [] => fun _ _ => by
    rw [branchesAt, branchesAt]
    exact compatible.refl _
  | b :: bs => fun related start => by
    rw [branchesAt, branchesAt]
    have here := related_occurrencesAt b (related.mono (List.subset_append_left _ _))
    have later := related_branchesAt bs (related.mono (List.subset_append_right _ _))
    exact compatible.append (compatible.map _ (related_blocksFrom compatible here b.bounds 0 start))
      (compatible.map _ (later start))

end

omit compatible in
theorem ofBlocks_withLookup (start : Nat) (blocks : List (List Derivation)) (stop : Nat) :
    Match.ofBlocks (scene.withLookup lookup) start blocks stop
      = Match.ofBlocks scene start blocks stop := by
  rw [Match.ofBlocks, Match.ofBlocks, settleAll_eq_foldl, settleAll_eq_foldl]
  rfl

theorem related_matchesAt (related : Related R (Element.walkList es) scene.annotations lookup)
    (start : Nat) : R (matchesAt scene es start) (matchesAt (scene.withLookup lookup) es start) := by
  rw [matchesAt_eq, matchesAt_eq]
  simp only [ofBlocks_withLookup]
  exact compatible.map _ (compatible.filter _ (related_rowsAt compatible es related start))

end

theorem mem_types_iff {p : Pattern} {type : String} :
    type ∈ p.types ↔ ∃ tag s, .atom (.tag tag) s ∈ Element.walkList p.elements ∧ tag.type = type := by
  rw [Pattern.types, List.mem_eraseDups, List.mem_filterMap]
  constructor
  · rintro ⟨e, mem, eq⟩
    split at eq
    · next tag s => exact ⟨tag, s, mem, Option.some.inj eq⟩
    · cases eq
  · rintro ⟨tag, s, mem, rfl⟩
    exact ⟨_, mem, rfl⟩

/-- Searches find related matches where the lookups of the types of the pattern are related. -/
theorem related_findAndTypes {config : Config} {tokens : List Token} {interrupted : Nat → Bool}
    {p : Pattern} (compatible : Compatible R)
    (related : ∀ type ∈ p.types, ∀ start, R (lookup type start) (lookup' type start)) :
    R (findAndTypes config tokens lookup interrupted p).1
      (findAndTypes config tokens lookup' interrupted p).1 := by
  have walked : Related R (Element.walkList p.elements) lookup lookup' := by
    intro tag s mem
    exact related tag.type (mem_types_iff.2 ⟨tag, s, mem, rfl⟩)
  have each (start : Nat) : R (matchesAt (.forPattern config tokens lookup p) p.elements start)
      (matchesAt (.forPattern config tokens lookup' p) p.elements start) :=
    related_matchesAt compatible walked start
  have matched := compatible.flatMap (compatible.refl (starts tokens interrupted)) each
  exact compatible.sort Match.precedes_trans Match.precedes_total matched

end Search

end SpanSearch
