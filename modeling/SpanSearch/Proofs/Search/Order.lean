import SpanSearch.Proofs.Search.Find
import SpanSearch.Proofs.Search.Loop
import SpanSearch.Proofs.Search.Recursion

/-! # The order of the matches

Sorting leaves in place what is in order already. So the matches of a pattern are those of each offset,
one offset after another, and an interruption leaves out those of the offsets from there on.
-/

namespace SpanSearch.Search

/-! ## Stable sorting -/

section

variable {le : α → α → Bool} (trans : ∀ a b c, le a b → le b c → le a c)
  (total : ∀ a b, le a b || le b a)

include trans total

/-- An item is sorted in after the smaller ones and before its equals. -/
theorem mergeSort_cons_eq (a : α) (l : List α) :
    (a :: l).mergeSort le
      = (l.mergeSort le).filter (!le a ·) ++ a :: (l.mergeSort le).filter (le a ·) := by
  obtain ⟨smaller, others, whole, rest, below⟩ := List.mergeSort_cons trans total a l
  have sorted := List.pairwise_mergeSort trans total (a :: l)
  rw [whole, List.pairwise_append] at sorted
  have above : ∀ b ∈ others, le a b := (List.pairwise_cons.1 sorted.2.1).1
  have none : smaller.filter (le a ·) = [] :=
    List.filter_eq_nil_iff.2 fun b mem => by simpa using below b mem
  have none' : others.filter (!le a ·) = [] :=
    List.filter_eq_nil_iff.2 fun b mem => by simpa using above b mem
  rw [whole, rest, List.filter_append, List.filter_append, List.filter_eq_self.2 below, none, none',
    List.filter_eq_self.2 above, List.append_nil, List.nil_append]

/-- Lists that are in order are sorted one after the other. -/
theorem mergeSort_append {first second : List α} (ordered : ∀ a ∈ first, ∀ b ∈ second, le a b) :
    (first ++ second).mergeSort le = first.mergeSort le ++ second.mergeSort le := by
  induction first with
  | nil => rw [List.mergeSort_nil]; rfl
  | cons a first ih =>
    obtain ⟨here, later⟩ := List.forall_mem_cons.1 ordered
    have none : (second.mergeSort le).filter (!le a ·) = [] :=
      List.filter_eq_nil_iff.2 fun b mem => by simpa using here b (List.mem_mergeSort.1 mem)
    have all : (second.mergeSort le).filter (le a ·) = second.mergeSort le :=
      List.filter_eq_self.2 fun b mem => here b (List.mem_mergeSort.1 mem)
    rw [List.cons_append, mergeSort_cons_eq trans total, mergeSort_cons_eq trans total, ih later,
      List.filter_append, List.filter_append, none, all]
    simp only [List.append_nil, List.append_assoc, List.cons_append]

theorem mergeSort_flatMap {items : List β} {f : β → List α}
    (ordered : items.Pairwise fun x y => ∀ a ∈ f x, ∀ b ∈ f y, le a b) :
    (items.flatMap f).mergeSort le = items.flatMap fun x => (f x).mergeSort le := by
  induction items with
  | nil => exact List.mergeSort_nil
  | cons x items ih =>
    obtain ⟨here, later⟩ := List.pairwise_cons.1 ordered
    rw [List.flatMap_cons, List.flatMap_cons, mergeSort_append trans total, ih later]
    intro a mem b mem'
    obtain ⟨y, later, mem'⟩ := List.mem_flatMap.1 mem'
    exact here y later a mem b mem'

end

/-! ## The matches of all offsets -/

theorem Match.precedes_trans (l m n : Match) (first : l.precedes m) (second : m.precedes n) :
    l.precedes n := by
  simp only [Match.precedes, Bool.or_eq_true, Bool.and_eq_true, decide_eq_true_eq, beq_iff_eq] at *
  omega

theorem Match.precedes_total (m n : Match) : m.precedes n || n.precedes m := by
  simp only [Match.precedes, Bool.or_eq_true, Bool.and_eq_true, decide_eq_true_eq, beq_iff_eq]
  omega

/-- Of two matches with one start, the longer one precedes. -/
theorem Match.precedes_eq {m n : Match} (same : m.start = n.start) :
    m.precedes n = decide (n.size ≤ m.size) := by
  rw [Match.precedes, same]
  simp

/-- The matches of ascending offsets come offset by offset, the longer ones first. -/
theorem matchesFrom_eq (scene : Scene) (elements : List Element) {starts : List Nat}
    (ascending : starts.Pairwise (· < ·)) :
    matchesFrom scene elements starts
      = starts.flatMap fun start =>
        (matchesAt scene elements start).mergeSort fun m n => n.size ≤ m.size := by
  have ordered : starts.Pairwise fun i j =>
      ∀ m ∈ matchesAt scene elements i, ∀ n ∈ matchesAt scene elements j, m.precedes n := by
    refine ascending.imp ?_
    intro i j less m mem n mem'
    have start := start_of_mem_matchesAt mem
    have start' := start_of_mem_matchesAt mem'
    simp [Match.precedes, start, start', less]
  rw [matchesFrom, mergeSort_flatMap Match.precedes_trans Match.precedes_total ordered]
  refine List.flatMap_congr fun start _ => ?_
  have alike : ∀ m ∈ matchesAt scene elements start, ∀ n ∈ matchesAt scene elements start,
      m.precedes n = decide (n.size ≤ m.size) := by
    intro m mem n mem'
    apply Match.precedes_eq
    rw [start_of_mem_matchesAt mem, start_of_mem_matchesAt mem']
  simpa using List.map_mergeSort (f := id) alike

variable {tokens : List Token} {interrupted : Nat → Bool}

/-- A search that is interrupted starts at the offsets before. -/
theorem starts_interrupted {k : Nat} (before : ∀ i < k, interrupted i = false)
    (now : interrupted k = true) :
    starts tokens interrupted = (List.range tokens.length).filter (· < k) := by
  unfold starts
  rcases Nat.lt_or_ge k tokens.length with less | le
  · obtain ⟨m, more⟩ := Nat.exists_eq_add_of_lt less
    have earlier : ∀ i ∈ List.range k, i < k := fun i mem => List.mem_range.1 mem
    rw [more, Nat.add_assoc, List.range_add, List.filter_append,
      List.takeWhile_append_of_pos fun i mem => by simp [before i (earlier i mem)],
      List.filter_eq_self.2 fun i mem => by simpa using earlier i mem]
    congr 1
    rw [List.filter_eq_nil_iff.2 fun i mem => ?_, List.range_succ_eq_map, List.map_cons,
      List.takeWhile_cons_of_neg]
    · simpa using now
    · obtain ⟨j, -, rfl⟩ := List.mem_map.1 mem
      simp
  · have all : ∀ i ∈ List.range tokens.length, i < k := fun i mem =>
      Nat.lt_of_lt_of_le (List.mem_range.1 mem) le
    rw [List.takeWhile_eq_self_iff.2 fun i mem => by simp [before i (all i mem)],
      List.filter_eq_self.2 fun i mem => by simpa using all i mem]

/-- The matches of a search that is not interrupted. -/
theorem find_uninterrupted (config : Config) (tokens : List Token) (lookup : Lookup) (p : Pattern) :
    find config tokens lookup (fun _ => false) p
      = ((List.range tokens.length).flatMap fun start =>
        (matchesAt (.forPattern config tokens lookup p) p.elements start).mergeSort
          fun m n => n.size ≤ m.size) := by
  have all : starts tokens (fun _ => false) = List.range tokens.length :=
    List.takeWhile_eq_self_iff.2 fun _ _ => rfl
  rw [find, all, matchesFrom_eq _ _ List.pairwise_lt_range]

/-- An interruption leaves out the matches from its offset on. -/
theorem find_interrupted (config : Config) (lookup : Lookup) (p : Pattern) {k : Nat}
    (before : ∀ i < k, interrupted i = false) (now : interrupted k = true) :
    find config tokens lookup interrupted p
      = (find config tokens lookup (fun _ => false) p).filter (·.start < k) := by
  have ascending := (List.pairwise_lt_range (n := tokens.length)).filter (· < k)
  rw [find_uninterrupted, find, starts_interrupted before now, matchesFrom_eq _ _ ascending,
    flatMap_filter, List.filter_flatMap]
  refine List.flatMap_congr fun start _ => ?_
  -- all matches of an offset are on the same side of the interruption
  split
  · next less =>
    refine (List.filter_eq_self.2 ?_).symm
    intro m mem
    rw [start_of_mem_matchesAt (List.mem_mergeSort.1 mem)]
    exact less
  · next reached =>
    refine (List.filter_eq_nil_iff.2 ?_).symm
    intro m mem
    rw [start_of_mem_matchesAt (List.mem_mergeSort.1 mem)]
    exact reached

/-- The word `a` once or more often. -/
def manyWords : Pattern := ⟨"'a'+", [.atom (.literal "a" ["a"]) ⟨⟨1, Bounds.unbounded⟩, []⟩]⟩

end SpanSearch.Search
