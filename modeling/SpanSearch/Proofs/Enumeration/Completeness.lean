import SpanSearch.Proofs.Enumeration.Levels
import SpanSearch.Proofs.Enumeration.Reports

/-! # Completeness of reports

Which longest chains are reported. Of chains with one span a round passes over all but the first, so
that what they begin is lost. A longest chain is reported just when none of its beginnings is passed
over.
-/

namespace SpanSearch.Enumeration

/-- Whether a chain is no part of a longer one. -/
structure Maximal (parts : Parts) (chain : List Annotation) : Prop where
  isChain : IsChain parts chain
  alone : ∀ longer, IsChain parts longer → chain.length < longer.length →
    ¬ keyOf chain <:+: keyOf longer

/-- Whether all beginnings of a chain are the first of their spans among chains. -/
def Unhidden (chains : List (List Annotation)) (chain : List Annotation) : Prop :=
  ∀ front, front <+: chain → front ≠ [] → front ≠ chain → Visible chains front

variable {config : Config} {tokens : List Token} {parts : Parts}
  {chains : List (List Annotation)} {rounds : Nat} {x y members front : List Annotation}
  {a e m : Annotation}

/-! ## Chains of one span -/

theorem visible_unique (visible : Visible chains x) (visible' : Visible chains y)
    (same : (spanOf x).sameSpan (spanOf y) = true) : x = y := by
  simp only [Visible, sameSpan_right same] at visible visible'
  exact Option.some.inj (visible.symm.trans visible')

theorem leads_unique (leads : Leads chains x) (leads' : Leads chains y)
    (length : x.length = y.length) (same : (spanOf x).sameSpan (spanOf y) = true) : x = y := by
  simp only [Leads, length, sameSpan_right same] at leads leads'
  exact Option.some.inj (leads.symm.trans leads')

/-- The first chain of a span is not longer than the others. -/
theorem Saturated.exists_visible (saturated : Saturated parts chains) (mem : x ∈ chains) :
    ∃ y, Visible chains y ∧ (spanOf y).sameSpan (spanOf x) = true ∧ y.length ≤ x.length := by
  obtain ⟨y, found⟩ : ∃ y, chains.find? (fun others => (spanOf others).sameSpan (spanOf x)) = some y :=
    Option.isSome_iff_exists.1 (List.find?_isSome.2 ⟨x, mem, sameSpan_self _⟩)
  obtain ⟨same, before, after, rfl, others⟩ := List.find?_eq_some_iff_append.1 found
  refine ⟨y, ?_, same, ?_⟩
  · simp only [Visible, sameSpan_right same, found]
  · rcases List.mem_append.1 mem with mem | mem
    · have differs := others x mem
      rw [sameSpan_self] at differs
      cases differs
    · rcases List.mem_cons.1 mem with rfl | mem
      · exact Nat.le_refl _
      · exact (List.pairwise_cons.1 (List.pairwise_append.1 saturated.sorted).2.1).1 x mem

/-- Chains of the same span end at the same offset. -/
theorem Linked.stop_of_sameSpan {starts separators elements : List Annotation}
    (linked : Linked starts separators elements x) (linked' : Linked starts separators elements y)
    (bounded : AllBounded starts separators elements)
    (same : (spanOf x).sameSpan (spanOf y) = true) (end_ : x.getLast? = some a)
    (end' : y.getLast? = some e) : a.stop = e.stop := by
  obtain ⟨-, last, -, end_x, -, -, stop, -⟩ := linked.span bounded
  obtain ⟨-, last', -, end_y, -, -, stop', -⟩ := linked'.span bounded
  obtain rfl : a = last := Option.some.inj (end_.symm.trans end_x)
  obtain rfl : e = last' := Option.some.inj (end'.symm.trans end_y)
  obtain ⟨start_eq, size_eq⟩ := sameSpan_iff.1 same
  omega

/-- The steps from a chain are those from the chains that end where it ends. -/
theorem joins_of_stop {separators elements : List Annotation} {b : Annotation}
    (joins : Joins separators elements a e) (same : b.stop = a.stop) :
    Joins separators elements b e := by
  obtain ⟨mem, s, mem_s, after, before⟩ := joins
  exact ⟨mem, s, mem_s, after.trans same.symm, before⟩

/-- Where a chain is visible, so are its beginnings: one that comes before the beginning has a
continuation of the same span, which comes before the chain. -/
theorem Saturated.visible_front (saturated : Saturated parts chains)
    (bounded : ∀ a ∈ parts.annotations, a.Bounded) (visible : Visible chains (front ++ [e]))
    (some : front ≠ []) : Visible chains front := by
  have mem := visible.leads.mem
  have leads := saturated.origin front e mem some
  obtain ⟨x, visible_x, same, length⟩ := saturated.exists_visible leads.mem
  rcases Nat.lt_or_eq_of_le length with shorter | equal
  · have isOpen := saturated.isOpen x visible_x.leads.mem
    obtain ⟨b, end_x⟩ := Option.ne_none_iff_exists'.1 (mt List.getLast?_eq_none_iff.1 isOpen.ne_nil)
    obtain ⟨a, end_, before, joins⟩ := (linked_snoc.1 (saturated.isOpen _ mem)).resolve_left
      fun none => some none.1
    have stop : b.stop = a.stop :=
      isOpen.stop_of_sameSpan before (allBounded_open bounded) same end_x end_
    have longer := saturated.closed x b e visible_x.leads end_x (joins_of_stop joins stop)
    have spans : spanOf (x ++ [e]) = spanOf (front ++ [e]) := by
      rw [spanOf_append isOpen.ne_nil, spanOf_append some, (sameSpan_iff.1 same).1]
    obtain ⟨y, visible_y, same_y, length_y⟩ := saturated.exists_visible longer
    rw [visible_unique visible_y visible (spans ▸ same_y)] at length_y
    simp only [List.length_append, List.length_singleton] at length_y
    omega
  · rw [← leads_unique visible_x.leads leads equal same]
    exact visible_x

theorem Saturated.visible_prefix (saturated : Saturated parts chains)
    (bounded : ∀ a ∈ parts.annotations, a.Bounded) (visible : Visible chains members)
    (beginning : front <+: members) (some : front ≠ []) : Visible chains front := by
  induction members using List.reverseRecOn with
  | nil => exact absurd (List.prefix_nil.1 beginning) some
  | append_singleton members e ih =>
    rcases List.prefix_concat_iff.1 beginning with rfl | beginning
    · exact visible
    · refine ih (saturated.visible_front bounded visible ?_) beginning
      rintro rfl
      exact some (List.prefix_nil.1 beginning)

/-! ## What is found and reported -/

/-- Every start element is a chain by itself that is the first of its span. -/
theorem visible_start (orderly : parts.Orderly tokens) (enough : parts.elements.length ≤ rounds)
    (mem : m ∈ parts.starts) : Visible (candidates config rounds tokens parts) [m] := by
  have saturated : Saturated parts (candidates config rounds tokens parts) :=
    saturated_candidates orderly enough
  have isOpen : IsOpen parts [m] := linked_singleton.2 mem
  have listed : [m] ∈ candidates config rounds tokens parts := by
    obtain ⟨same, listed, key⟩ : ∃ same ∈ seeds parts, keyOf same = keyOf [m] :=
      exists_addNew (List.mem_map_of_mem mem)
    rw [orderly.eq_of_key (.ofOpen (isOpen_seeds same listed)) (.ofOpen isOpen) key] at listed
    exact subset_grow listed
  obtain ⟨x, visible, same, length⟩ := saturated.exists_visible listed
  have isOpen_x := saturated.isOpen x visible.leads.mem
  obtain ⟨m', rfl⟩ := List.length_eq_one_iff.1
    (Nat.le_antisymm length (List.length_pos_iff.2 isOpen_x.ne_nil))
  have mem' : m' ∈ parts.starts := linked_singleton.1 isOpen_x
  have foremost {m : Annotation} : m ∈ parts.starts → Foremost parts.starts m :=
    (foremost_iff (orderly.apart _ (by simp))).2
  have stop {m : Annotation} (mem : m ∈ parts.starts) : m.stop = m.start + m.size :=
    stop_eq (orderly.bounded m (by simp [Parts.annotations, mem]))
  obtain ⟨start_eq, size_eq⟩ := sameSpan_iff.1 same
  simp only [spanOf_singleton, Annotation.ofSpan, stop mem, stop mem'] at start_eq size_eq
  have same : m'.sameSpan m = true := sameSpan_iff.2 ⟨start_eq, by omega⟩
  have first := foremost mem'
  simp only [Foremost, sameSpan_right same] at first
  rwa [Option.some.inj (first.symm.trans (foremost mem))] at visible

/-- The chains that are found are those that are visible, and those that are longer by a last step. -/
theorem mem_found (orderly : parts.Orderly tokens) :
    members ∈ found config rounds tokens parts
      ↔ ∃ front, Visible (candidates config rounds tokens parts) front
        ∧ (members = front ∨ ∃ a e, front.getLast? = some a
          ∧ Joins (parts.separators ++ parts.endSeparators) (parts.elements ++ parts.ends) a e
          ∧ members = front ++ [e]) := by
  have isOpen : ∀ members ∈ candidates config rounds tokens parts, IsOpen parts members :=
    isOpen_candidates orderly.bounded
  have foremost {list : List Annotation} (role : list ∈ [parts.starts, parts.elements,
      parts.separators, parts.ends, parts.endSeparators]) (a : Annotation) (mem : a ∈ list) :
      Foremost list a :=
    (foremost_iff (orderly.apart list role)).2 mem
  rw [found, mem_stepped_last (tidy_round orderly.bounded isOpen)]
  constructor
  · rintro ⟨front, ready, rfl | ⟨e, continues, rfl⟩⟩
    · exact ⟨members, ready.visible, .inl rfl⟩
    · obtain ⟨-, a, -, end_, -, -, ends, -⟩ :=
        (isOpen front ready.mem).span (allBounded_open orderly.bounded)
      refine ⟨front, ready.visible, .inr ⟨a, e, end_, continues.joins ?_ ?_ ?_ ends, rfl⟩⟩
      · exact fun s first => List.mem_append.2 (first.imp Foremost.mem Foremost.mem)
      · exact fun e first => List.mem_append.2 (first.imp Foremost.mem Foremost.mem)
      · exact fun s mem => orderly.bounded s (lastSeparators_subset mem)
  · rintro ⟨front, visible, rfl | ⟨a, e, end_, joins, rfl⟩⟩
    · exact ⟨members, orderly.ready (isOpen _ visible.leads.mem) visible, .inl rfl⟩
    · have isOpen := isOpen front visible.leads.mem
      refine ⟨front, orderly.ready isOpen visible, .inr ⟨e, orderly.continues isOpen end_ joins
        (fun s mem => ?_) (fun e mem => ?_) lastSeparators_subset lastElements_subset, rfl⟩⟩
      · exact (List.mem_append.1 mem).imp (foremost (by simp) s) (foremost (by simp) s)
      · exact (List.mem_append.1 mem).imp (foremost (by simp) e) (foremost (by simp) e)

/-- A chain is found just when all its beginnings are visible. -/
theorem mem_found_iff_unhidden (orderly : parts.Orderly tokens)
    (enough : parts.elements.length ≤ rounds) (isChain : IsChain parts members) :
    members ∈ found config rounds tokens parts
      ↔ Unhidden (candidates config rounds tokens parts) members := by
  have saturated : Saturated parts (candidates config rounds tokens parts) :=
    saturated_candidates orderly enough
  rw [mem_found orderly]
  constructor
  · rintro ⟨front, visible, here⟩ beginning within some other
    refine saturated.visible_prefix orderly.bounded visible ?_ some
    rcases here with rfl | ⟨a, e, -, -, rfl⟩
    · exact within
    · exact (List.prefix_concat_iff.1 within).resolve_left other
  · intro unhidden
    have linked := isChain.linked
    induction members using List.reverseRecOn with
    | nil => exact absurd rfl linked.ne_nil
    | append_singleton front e _ =>
      rcases linked_snoc.1 linked with ⟨rfl, start⟩ | ⟨a, end_, linked, joins⟩
      · exact ⟨[e], visible_start orderly enough start, .inl rfl⟩
      · exact ⟨front, unhidden front (List.prefix_append ..) linked.ne_nil (by simp),
          .inr ⟨a, e, end_, joins, rfl⟩⟩

theorem mem_reported_iff_found (orderly : parts.Orderly tokens) :
    members ∈ reported config rounds tokens parts
      ↔ members ∈ found config rounds tokens parts
        ∧ ∀ others ∈ found config rounds tokens parts,
          isPart (keyOf members) (keyOf others) = false := by
  have same {members : List Annotation} : members ∈ addNew [] (found config rounds tokens parts)
      ↔ members ∈ found config rounds tokens parts := by
    refine ⟨fun mem => (mem_addNew mem).resolve_left List.not_mem_nil, fun mem => ?_⟩
    obtain ⟨same, mem', key⟩ : ∃ same ∈ addNew [] (found config rounds tokens parts),
        keyOf same = keyOf members := exists_addNew mem
    have isChain := isChain_found orderly.bounded members mem
    have isChain' := isChain_found orderly.bounded same
      ((mem_addNew mem').resolve_left List.not_mem_nil)
    exact orderly.eq_of_key isChain' isChain key ▸ mem'
  simp only [mem_reported, same]

/-! ## Maximal chains -/

theorem Parts.Orderly.length_isChain (orderly : parts.Orderly tokens)
    (isChain : IsChain parts members) : members.length ≤ parts.elements.length + 2 := by
  cases isChain with
  | ofOpen isOpen => exact Nat.le_succ_of_le (orderly.length_isOpen isOpen)
  | @closed front a b isOpen joins =>
    have := orderly.length_isOpen isOpen
    simp only [List.length_append, List.length_cons, List.length_nil] at this ⊢
    omega

/-- Every chain is part of a maximal one, or maximal. -/
theorem Parts.Orderly.exists_maximal (orderly : parts.Orderly tokens)
    (isChain : IsChain parts members) :
    ∃ chain, Maximal parts chain ∧ keyOf members <:+: keyOf chain := by
  induction room : parts.elements.length + 2 - members.length using Nat.strongRecOn
    generalizing members with
  | ind room ih =>
    by_cases part : ∃ longer, IsChain parts longer ∧ members.length < longer.length
        ∧ keyOf members <:+: keyOf longer
    · obtain ⟨longer, isChain', more, within⟩ := part
      have bound := orderly.length_isChain isChain'
      obtain ⟨chain, maximal, within'⟩ := ih _ (by omega) isChain' rfl
      exact ⟨chain, maximal, within.trans within'⟩
    · exact ⟨members, ⟨isChain, fun longer isChain' more within =>
        part ⟨longer, isChain', more, within⟩⟩, List.infix_rfl⟩

/-! ## Which maximal chains are reported -/

theorem Linked.of_prefix {starts separators elements : List Annotation}
    (linked : Linked starts separators elements members) (within : front <+: members)
    (some : front ≠ []) : Linked starts separators elements front := by
  obtain ⟨rest, rfl⟩ := within
  exact ((linked_append some).1 linked).1

theorem isOpen_of_prefix (isChain : IsChain parts members) (within : front <+: members)
    (some : front ≠ []) (other : front ≠ members) : IsOpen parts front := by
  cases isChain with
  | ofOpen isOpen => exact isOpen.of_prefix within some
  | @closed before a b isOpen joins =>
    have split : before ++ [a, b] = (before ++ [a]) ++ [b] := by simp
    rw [split] at within other
    exact isOpen.of_prefix ((List.prefix_concat_iff.1 within).resolve_left other) some

/-- Where different open chains have different spans, nothing is passed over. -/
theorem unhidden_of_spans (orderly : parts.Orderly tokens) (enough : parts.elements.length ≤ rounds)
    (spans : ∀ x y, IsOpen parts x → IsOpen parts y →
      (spanOf x).sameSpan (spanOf y) = true → x = y) (isChain : IsChain parts members) :
    Unhidden (candidates config rounds tokens parts) members := by
  have saturated : Saturated parts (candidates config rounds tokens parts) :=
    saturated_candidates orderly enough
  have visible {front : List Annotation} (isOpen : IsOpen parts front)
      (mem : front ∈ candidates config rounds tokens parts) :
      Visible (candidates config rounds tokens parts) front := by
    obtain ⟨y, visible, same, -⟩ := saturated.exists_visible mem
    exact spans y front (saturated.isOpen y visible.leads.mem) isOpen same ▸ visible
  intro front within some other
  have isOpen := isOpen_of_prefix isChain within some other
  refine visible isOpen ?_
  clear within some other
  induction front using List.reverseRecOn with
  | nil => exact absurd rfl isOpen.ne_nil
  | append_singleton front e ih =>
    rcases linked_snoc.1 isOpen with ⟨rfl, start⟩ | ⟨a, end_, before, joins⟩
    · exact (visible_start orderly enough start).leads.mem
    · exact saturated.closed front a e (visible before (ih before)).leads end_ joins

theorem Maximal.mem_reported_iff (maximal : Maximal parts members) (orderly : parts.Orderly tokens)
    (enough : parts.elements.length ≤ rounds) :
    members ∈ reported config rounds tokens parts
      ↔ Unhidden (candidates config rounds tokens parts) members := by
  rw [mem_reported_iff_found orderly, mem_found_iff_unhidden orderly enough maximal.isChain]
  refine and_iff_left fun others mem => Bool.eq_false_iff.2 fun part => ?_
  obtain ⟨longer, within⟩ := isPart_iff.1 part
  rw [length_keyOf, length_keyOf] at longer
  exact maximal.alone others (isChain_found orderly.bounded others mem) longer within

/-- If no beginning of any maximal chain is passed over, only maximal chains are reported: a longer
chain would be part of a maximal one, which is found. -/
theorem maximal_of_mem_reported (orderly : parts.Orderly tokens)
    (enough : parts.elements.length ≤ rounds)
    (unhidden : ∀ chain, Maximal parts chain →
      Unhidden (candidates config rounds tokens parts) chain)
    (mem : members ∈ reported config rounds tokens parts) : Maximal parts members := by
  obtain ⟨mem, alone⟩ := (mem_reported_iff_found orderly).1 mem
  refine ⟨isChain_found orderly.bounded members mem, fun longer isChain more within => ?_⟩
  obtain ⟨longest, maximal, within'⟩ := orderly.exists_maximal isChain
  have found := (mem_found_iff_unhidden orderly enough maximal.isChain).2 (unhidden longest maximal)
  have lengths := within'.length_le
  rw [length_keyOf, length_keyOf] at lengths
  have part : isPart (keyOf members) (keyOf longest) = true := by
    rw [isPart_iff, length_keyOf, length_keyOf]
    exact ⟨Nat.lt_of_lt_of_le more lengths, within.trans within'⟩
  rw [alone longest found] at part
  cases part

/-- Where different open chains have different spans, just the maximal chains are reported. -/
theorem mem_reported_iff_maximal (orderly : parts.Orderly tokens)
    (enough : parts.elements.length ≤ rounds)
    (spans : ∀ x y, IsOpen parts x → IsOpen parts y →
      (spanOf x).sameSpan (spanOf y) = true → x = y) :
    members ∈ reported config rounds tokens parts ↔ Maximal parts members := by
  have unhidden {chain : List Annotation} (maximal : Maximal parts chain) :
      Unhidden (candidates config rounds tokens parts) chain :=
    unhidden_of_spans orderly enough spans maximal.isChain
  exact ⟨maximal_of_mem_reported orderly enough fun _ => unhidden,
    fun maximal => (maximal.mem_reported_iff orderly enough).2 (unhidden maximal)⟩

/-- A maximal chain is reported just when none of its beginnings is passed over. So what is reported
are just the maximal chains if and only if no beginning of any of them is passed over. -/
theorem mem_reported_iff_unhidden (config : Config) (orderly : parts.Orderly tokens)
    (enough : parts.elements.length ≤ rounds) :
    assemble config rounds tokens parts
        = Annotation.sort ((reported config rounds tokens parts).map toAnnotation)
      ∧ (∀ chain, Maximal parts chain →
        (chain ∈ reported config rounds tokens parts
          ↔ Unhidden (candidates config rounds tokens parts) chain))
      ∧ ((∀ chain, chain ∈ reported config rounds tokens parts ↔ Maximal parts chain)
        ↔ ∀ chain, Maximal parts chain →
          Unhidden (candidates config rounds tokens parts) chain) := by
  have each (chain : List Annotation) (maximal : Maximal parts chain) :
      chain ∈ reported config rounds tokens parts
        ↔ Unhidden (candidates config rounds tokens parts) chain :=
    maximal.mem_reported_iff orderly enough
  refine ⟨assemble_eq, each, fun complete chain maximal => ?_,
    fun unhidden chain => ⟨fun mem => ?_, fun maximal => ?_⟩⟩
  · exact (each chain maximal).1 ((complete chain).2 maximal)
  · exact maximal_of_mem_reported orderly enough unhidden mem
  · exact (each chain maximal).2 (unhidden chain maximal)

theorem mem_reported_pair :
    pair.Orderly [.ofText "a", .ofText ",", .ofText "b"]
      ∧ (∀ chain, Maximal pair chain →
        (chain ∈ reported {} 1 [.ofText "a", .ofText ",", .ofText "b"] pair
          ↔ Unhidden (candidates {} 1 [.ofText "a", .ofText ",", .ofText "b"] pair) chain)) :=
  have orderly : pair.Orderly [.ofText "a", .ofText ",", .ofText "b"] :=
    ⟨by decide, by decide, by decide, by decide, by decide⟩
  ⟨orderly, (mem_reported_iff_unhidden {} orderly (by decide)).2.1⟩

/-- Two elements that follow the same start element over different separators, end at the same offset,
and have the same continuation. -/
def forked : Parts where
  starts := [⟨some "m0", "e", 0, 1, .empty⟩]
  elements := [⟨some "m1", "e", 2, 3, .empty⟩, ⟨some "n1", "e", 4, 1, .empty⟩,
    ⟨some "m2", "e", 6, 1, .empty⟩]
  separators := [⟨some "s1", "s", 1, 1, .empty⟩, ⟨some "s2", "s", 1, 3, .empty⟩,
    ⟨some "s3", "s", 5, 1, .empty⟩]
  ends := []
  endSeparators := []

theorem joins_forked (joins : Joins forked.separators forked.elements a e) :
    (a.stop = 1 ∧ e.stop = 5) ∨ (a.stop = 5 ∧ e.stop = 7) := by
  have steps : ∀ e ∈ forked.elements, ∀ s ∈ forked.separators, e.start = s.stop →
      (s.start = 1 ∧ e.stop = 5) ∨ (s.start = 5 ∧ e.stop = 7) := by decide
  obtain ⟨mem, s, mem_s, after, before⟩ := joins
  exact after ▸ steps e mem s mem_s before

theorem length_forked (isChain : IsChain forked members) : members.length ≤ 3 := by
  have linked : Linked forked.starts forked.separators forked.elements members := isChain.linked
  clear isChain
  -- how many members there are can be told from where the last one ends
  have ends : ∃ a, members.getLast? = some a
      ∧ (members.length = 1 ∧ a.stop = 1 ∨ members.length = 2 ∧ a.stop = 5
        ∨ members.length = 3 ∧ a.stop = 7) := by
    induction members using List.reverseRecOn with
    | nil => exact absurd rfl linked.ne_nil
    | append_singleton front b ih =>
      refine ⟨b, List.getLast?_concat, ?_⟩
      rw [List.length_append, List.length_singleton]
      rcases linked_snoc.1 linked with ⟨rfl, start⟩ | ⟨a, end_, linked, joins⟩
      · exact .inl ⟨rfl, (show ∀ m ∈ forked.starts, m.stop = 1 by decide) b start⟩
      · obtain ⟨a', end', length⟩ := ih linked
        obtain rfl : a = a' := Option.some.inj (end_.symm.trans end')
        have := joins_forked joins
        omega
  obtain ⟨a, -, length⟩ := ends
  omega

/-- Of two longest chains that have a beginning of the same span, one is not reported. -/
theorem not_mem_reported_forked :
    forked.Orderly (List.replicate 7 (.ofText "a")) ∧ forked.elements.length ≤ 3
      ∧ ¬ ∀ chain, chain ∈ reported {} 3 (List.replicate 7 (.ofText "a")) forked
        ↔ Maximal forked chain := by
  have orderly : forked.Orderly (List.replicate 7 (.ofText "a")) :=
    ⟨by decide, by decide, by decide, by decide, by decide⟩
  have enough : forked.elements.length ≤ 3 := by decide
  refine ⟨orderly, enough, fun exact_ => ?_⟩
  -- both chains have three members, and would be found
  have visible {b : Annotation} (isOpen : IsOpen forked [⟨some "m0", "e", 0, 1, .empty⟩, b,
      ⟨some "m2", "e", 6, 1, .empty⟩]) :
      Visible (candidates {} 3 (List.replicate 7 (.ofText "a")) forked)
        [⟨some "m0", "e", 0, 1, .empty⟩, b] := by
    have maximal : Maximal forked _ :=
      ⟨.ofOpen isOpen, fun longer isChain more _ => absurd (length_forked isChain) (by simpa using more)⟩
    have mem := ((mem_reported_iff_found orderly).1 ((exact_ _).2 maximal)).1
    exact (mem_found_iff_unhidden orderly enough (.ofOpen isOpen)).1 mem _
      ⟨[⟨some "m2", "e", 6, 1, .empty⟩], rfl⟩ (by simp) (by simp)
  have first := visible (b := ⟨some "m1", "e", 2, 3, .empty⟩) ⟨by decide, by decide⟩
  have second := visible (b := ⟨some "n1", "e", 4, 1, .empty⟩) ⟨by decide, by decide⟩
  exact absurd (visible_unique first second (by decide)) (by decide)

end SpanSearch.Enumeration
