import SpanSearch.Proofs.Pattern.Quantifiers
import SpanSearch.Proofs.Search.Find
import SpanSearch.Proofs.Search.Loop

/-! # The counts of a search

A search counts how often elements occur. No count exceeds the maximum of its element, so that it is
an offset at most. What is more, an occurrence that no minimum asks for has a token at least, so that
the search does not count further than it has come.
-/

namespace SpanSearch

/-- Bounds that are read can be written. -/
theorem Pattern.Piece.Read.sound {options : Pattern.Options} {b : Bounds}
    (h : Pattern.Piece.Read options (.bounds b)) : b.Sound := by
  obtain ⟨c, cs, after, reads⟩ := h
  obtain ⟨w, -, word⟩ := Pattern.word_of_readPiece reads
  exact word.sound

namespace Search

/-! ## What elements have to be like -/

/-- Whether an element occurs no more often than offsets can count, and is not an atom that can match
without a token. -/
structure Element.Countable (e : Element) : Prop where
  solid : Element.Solid e
  limited : e.bounds.max ≤ Offset.greatest

/-- Whether elements and their descendants are such. -/
def CountableAll (es : List Element) : Prop := ∀ e ∈ Element.walkList es, Element.Countable e

theorem countableAll_cons {e : Element} {es : List Element} :
    CountableAll (e :: es) ↔ (∀ e' ∈ e.walk, Element.Countable e') ∧ CountableAll es := by
  simp only [CountableAll, Element.walkList, List.forall_mem_append]

theorem countableAll_singleton {b : Element} {branches : List Element} (mem : b ∈ branches)
    (h : CountableAll branches) : CountableAll [b] := by
  induction branches with
  | nil => cases mem
  | cons first rest ih =>
    obtain ⟨here, later⟩ := countableAll_cons.1 h
    cases mem with
    | head => exact countableAll_cons.2 ⟨here, List.forall_mem_nil _⟩
    | tail _ mem => exact ih mem later

theorem CountableAll.head {e : Element} {es : List Element} (h : CountableAll (e :: es)) :
    Element.Countable e := by
  have self : e ∈ e.walk := by cases e <;> simp [Element.walk]
  exact (countableAll_cons.1 h).1 e self

theorem countableAll_of_compile {options : Pattern.Options} {source : String} {p : Pattern}
    (compiled : Pattern.compile options source = .ok p) : CountableAll p.elements := by
  intro e mem
  have solid := Pattern.solidAll_of_compile compiled e mem
  have made := Pattern.madeAll_of_compile compiled e mem
  have suffix : Pattern.MadeSuffix (Pattern.Piece.Read options) e.suffix := by
    cases e with
    | atom a s => exact made.2
    | sequence children s => exact made.2
    | choice branches s => exact made.2
  refine ⟨solid, ?_⟩
  rcases suffix.bounds with once | read
  · rw [Element.bounds, once]
    decide
  · exact read.sound.limited

/-! ## What goals count -/

/-- How often the element of a goal has occurred. -/
def Goal.count : Goal → Nat
  | .row _ count => count
  | .close _ count .. => count

/-- How often the element of a goal may occur. -/
def Goal.bounds : Goal → Bounds
  | .row [] _ => ⟨0, 0⟩
  | .row (e :: _) _ => e.bounds
  | .close e .. => e.bounds

/-- Whether the counts of goals are in order when a search from `first` has come to `reached`. An
element has occurred no more often than its maximum allows, and beyond its minimum only as often as
there are tokens behind it. -/
inductive Counted (first : Nat) : Nat → List Goal → Prop
  | nil {reached : Nat} : Counted first reached []
  | ended {reached : Nat} {goals : List Goal} (later : Counted first reached goals) :
    Counted first reached (.row [] 0 :: goals)
  | row {reached count : Nat} {e : Element} {es : List Element} {goals : List Goal}
    (countable : CountableAll (e :: es)) (within : count ≤ e.bounds.max)
    (lean : count ≤ e.bounds.min + (reached - first)) (later : Counted first reached goals) :
    Counted first reached (.row (e :: es) count :: goals)
  /-- The end of a group is followed by the row that the group stands in. -/
  | close {reached start count : Nat} {e : Element} {es : List Element}
    {before : List Occurrence} {goals : List Goal} (countable : CountableAll (e :: es))
    (begun : first ≤ start) (forward : start ≤ reached) (more : count < e.bounds.max)
    (lean : count ≤ e.bounds.min + (start - first)) (later : Counted first start goals) :
    Counted first reached (.close e count start before :: .row (e :: es) (count + 1) :: goals)

namespace Counted

variable {first reached reached' count : Nat} {goals : List Goal} {e : Element}
  {es : List Element}

/-- Counts stay in order as the search comes further. -/
theorem mono (h : Counted first reached goals) (further : reached ≤ reached') :
    Counted first reached' goals := by
  induction h with
  | nil => exact .nil
  | ended _ ih => exact .ended (ih further)
  | row countable within lean _ ih => exact .row countable within (by omega) (ih further)
  | close countable begun forward more lean later =>
    exact .close countable begun (by omega) more lean later

/-- Elements that have not occurred yet are in order. -/
theorem enter (countable : CountableAll es) (later : Counted first reached goals) :
    Counted first reached (.row es 0 :: goals) := by
  cases es with
  | nil => exact .ended later
  | cons e es => exact .row countable (Nat.zero_le _) (Nat.zero_le _) later

/-- One more occurrence that has a token, or that is lacking, is in order. -/
theorem next (countable : CountableAll (e :: es)) (more : count < e.bounds.max)
    (lean : count < e.bounds.min + (reached - first)) (later : Counted first reached goals) :
    Counted first reached (.row (e :: es) (count + 1) :: goals) :=
  .row countable more lean later

theorem count_le (h : Counted first reached goals) :
    ∀ goal ∈ goals, goal.count ≤ goal.bounds.max ∧ goal.bounds.max ≤ Offset.greatest
      ∧ goal.count ≤ goal.bounds.min + (reached - first) + 1 := by
  induction h with
  | nil => exact fun _ mem => nomatch mem
  | ended _ ih =>
    exact List.forall_mem_cons.2 ⟨⟨Nat.le_refl _, Nat.zero_le _, Nat.zero_le _⟩, ih⟩
  | row countable within lean _ ih =>
    exact List.forall_mem_cons.2
      ⟨⟨within, countable.head.limited, Nat.le_succ_of_le lean⟩, ih⟩
  | close countable begun forward more lean _ ih =>
    have limited := countable.head.limited
    refine List.forall_mem_cons.2 ⟨⟨Nat.le_of_lt more, limited, ?_⟩,
      List.forall_mem_cons.2 ⟨⟨more, limited, ?_⟩, ?_⟩⟩
    · dsimp only [Goal.count, Goal.bounds]
      omega
    · dsimp only [Goal.count, Goal.bounds]
      omega
    · intro goal mem
      obtain ⟨within, limited, lean⟩ := ih goal mem
      exact ⟨within, limited, by omega⟩

end Counted

/-! ## What the search counts -/

/-- Whether a state of the search from `first` has come no less far, with its counts in order. -/
structure State.Counted (first : Nat) (s : State) : Prop where
  begun : first ≤ s.offset
  counts : Search.Counted first s.offset s.goals

/-- A leaf of an atom that cannot match without a token ends further on. -/
theorem Scene.Located.lt_of_mem_leaves {scene : Scene} (located : scene.Located) {e : Element}
    {a : Atom} (solid : Atom.Solid a) {offset : Nat} {node : Occurrence}
    (mem : node ∈ scene.leaves e a offset) : offset < node.stop := by
  obtain ⟨⟨stop, matched⟩, ends, rfl⟩ := List.mem_map.1 mem
  exact located.lt_of_covers solid (located.mem_ends_iff.1 ends)

section

variable {scene : Scene} {first : Nat} {s t : State} {e : Element} {es : List Element} {count : Nat}
  {goals : List Goal}

/-- After one more occurrence of an element the counts are in order, or will be when its group
ends. -/
theorem counted_of_mem_occur (located : scene.Located) (countable : CountableAll (e :: es))
    (more : count < e.bounds.max) (lean : count ≤ e.bounds.min + (s.offset - first))
    (begun : first ≤ s.offset) (later : Counted first s.offset goals)
    (mem : t ∈ occur scene e count { s with goals := .row (e :: es) (count + 1) :: goals }) :
    t.Counted first := by
  obtain ⟨here, -⟩ := countableAll_cons.1 countable
  cases e with
  | atom a suffix =>
    obtain ⟨node, leaf, rfl⟩ := List.mem_map.1 mem
    have solid : Atom.Solid a := countable.head.solid
    have further : s.offset < node.stop := located.lt_of_mem_leaves solid leaf
    refine ⟨?_, .next countable more ?_ (later.mono (Nat.le_of_lt further))⟩
    · change first ≤ node.stop
      omega
    · change count < _ + (node.stop - first)
      omega
  | sequence children suffix =>
    obtain rfl := List.mem_singleton.1 mem
    have inside : CountableAll children := fun e mem => here e (by simp [Element.walk, mem])
    exact ⟨begun, .enter inside (.close countable begun (Nat.le_refl _) more lean later)⟩
  | choice branches suffix =>
    obtain ⟨branch, taken, rfl⟩ := List.mem_map.1 mem
    have inside : CountableAll branches := fun e mem => here e (by simp [Element.walk, mem])
    exact ⟨begun, .enter (countableAll_singleton taken inside)
      (.close countable begun (Nat.le_refl _) more lean later)⟩

/-- Counts are in order in the successors of a state if they are in the state. -/
theorem counted_of_mem_successors (located : scene.Located) (counted : s.Counted first)
    (mem : t ∈ successors scene s) : t.Counted first := by
  obtain ⟨goals, offset, nodes, attributes⟩ := s
  obtain ⟨begun, counts⟩ := counted
  dsimp only at begun counts
  cases counts with
  | nil => cases mem
  | ended later =>
    obtain rfl := List.mem_singleton.1 mem
    exact ⟨begun, later⟩
  | row countable within lean later =>
    rcases List.mem_append.1 mem with on | again
    · split at on
      · obtain rfl := List.mem_singleton.1 on
        exact ⟨begun, .enter (countableAll_cons.1 countable).2 later⟩
      · cases on
    · split at again
      · next more => exact counted_of_mem_occur located countable more lean begun later again
      · cases again
  | close countable begun' forward more lean later =>
    unfold successors at mem
    dsimp only at mem
    split at mem
    · cases mem
    · next follows =>
      obtain rfl := List.mem_singleton.1 mem
      refine ⟨begun, .next countable more ?_ (later.mono forward)⟩
      -- the occurrence has a token, or it is one that the minimum asks for
      change _ < _ + (offset - first)
      omega

end

end Search

end SpanSearch
