import Mathlib.Data.List.MinMax
import SpanSearch.Proofs.Search.Find

/-! # The attributes of matches

The attributes of a match depend on its tree alone: they come about when the setters of its nodes are
applied one after another, those of what a node consists of before its own. If all setters of a name
have one policy, the value of the name is what this policy makes of all the values that were set.
-/

namespace SpanSearch

/-! ## The values of one name -/

/-- What a policy makes of all the values of a name in their order: the first or the last of them,
the first among the longest, or all of them joined. -/
def Policy.choose (separator : String) : Policy → List String → Option String
  | .first, values => values.head?
  | .last, values => values.getLast?
  | .longest, values => values.argmax String.length
  | .join own, values =>
    if values.isEmpty then none else some ((own.getD separator).intercalate values)

section

variable {policy : Policy} {separator name value : String} {values : List String}
  {tokens : List Token} {span : Annotation} {attributes : Attributes}

@[simp] theorem Policy.choose_nil : policy.choose separator [] = none := by
  cases policy <;> rfl

/-- One more value is combined with what the policy makes of those before it. -/
theorem Policy.choose_concat :
    policy.choose separator (values ++ [value])
      = some (match policy.choose separator values with
        | none => value
        | some earlier => policy.combine separator earlier value) := by
  cases policy with
  | first => cases values <;> rfl
  | last =>
    simp only [choose, combine, List.getLast?_concat]
    split <;> rfl
  | longest =>
    simp only [choose, combine, List.argmax_concat]
    cases values.argmax String.length with
    | none => rfl
    | some earlier => exact (apply_ite some _ _ _).symm
  | join own =>
    cases values with
    | nil => simp [choose]
    | cons first rest =>
      have joined : (own.getD separator).intercalate (first :: rest ++ [value])
          = (own.getD separator).intercalate (first :: rest) ++ own.getD separator ++ value := by
        rw [String.intercalate_append_of_ne_nil (List.cons_ne_nil _ _) (List.cons_ne_nil _ _),
          String.intercalate_singleton]
      exact congrArg some joined

theorem Attributes.get?_merge (key : String) :
    (attributes.merge policy separator name value).get? key
      = if key = name then
          some (match attributes.get? name with
            | none => value
            | some earlier => policy.combine separator earlier value)
        else attributes.get? key := by
  unfold merge
  split <;> simp_all

/-- A setter of the name adds its value to those of the name, and another setter adds none. -/
theorem Setter.get?_mergeInto? {s : Setter} (single : s.name = name → s.policy = policy)
    (settled : attributes.get? name = policy.choose separator values) :
    ((s.mergeInto? tokens separator span attributes).getD attributes).get? name
      = policy.choose separator
        (values ++ if s.name = name then (s.value? tokens span).toList else []) := by
  unfold mergeInto?
  cases s.value? tokens span with
  | none => simpa using settled
  | some value =>
    by_cases here : s.name = name
    · simp only [Option.map_some, Option.getD_some, Attributes.get?_merge, here, if_true,
        Option.toList_some, Policy.choose_concat, settled, single here]
    · simp only [Option.map_some, Option.getD_some, Attributes.get?_merge, Ne.symm here, if_false,
        here, List.append_nil, settled]

/-- The values that setters give to a name for a span. -/
def Setter.valuesOf (name : String) (tokens : List Token) (span : Annotation)
    (setters : List Setter) : List String :=
  (setters.filter (·.name = name)).filterMap (·.value? tokens span)

theorem Setter.get?_applyAll {setters : List Setter}
    (single : ∀ s ∈ setters, s.name = name → s.policy = policy)
    (settled : attributes.get? name = policy.choose separator values) :
    (applyAll setters tokens separator span attributes).get? name
      = policy.choose separator (values ++ valuesOf name tokens span setters) := by
  induction setters generalizing attributes values with
  | nil => simpa [applyAll, valuesOf] using settled
  | cons s rest ih =>
    obtain ⟨first, others⟩ := List.forall_mem_cons.1 single
    rw [applyAll, List.foldl_cons]
    refine (ih others (get?_mergeInto? first settled)).trans ?_
    by_cases here : s.name = name
    · cases value : s.value? tokens span <;> simp [valuesOf, here, value]
    · simp [valuesOf, here]

/-- Setters without values leave the attributes as they are. -/
theorem Setter.applyAll?_getD (setters : List Setter) :
    (applyAll? setters tokens separator span attributes).getD attributes
      = applyAll setters tokens separator span attributes := by
  unfold applyAll?
  split
  · rfl
  · next noValue =>
    simp only [List.any_eq_true, Option.isSome_iff_ne_none, not_exists, not_and, not_not] at noValue
    induction setters with
    | nil => rfl
    | cons s rest ih =>
      obtain ⟨first, others⟩ := List.forall_mem_cons.1 noValue
      simpa [applyAll, mergeInto?, first] using ih others

end

/-! ## The nodes of a tree -/

namespace Occurrence

mutual

/-- The nodes of an occurrence, those that it consists of before itself. -/
def postorder : Occurrence → List Occurrence
  | leaf e start stop matched => [leaf e start stop matched]
  | group e start stop children => postorderAll children ++ [group e start stop children]

/-- The nodes of several occurrences in a row. -/
def postorderAll : List Occurrence → List Occurrence
  | [] => []
  | o :: rest => o.postorder ++ postorderAll rest

end

/-- The attributes after the setters of a node are applied to its span. -/
def applySetters (tokens : List Token) (separator : String) (attributes : Attributes)
    (node : Occurrence) : Attributes :=
  (Setter.applyAll? node.element.setters tokens separator node.span attributes).getD attributes

/-- The values that the setters of nodes give to a name, in the order of the nodes. -/
def valuesOf (name : String) (tokens : List Token) (nodes : List Occurrence) : List String :=
  nodes.flatMap fun node => Setter.valuesOf name tokens node.span node.element.setters

/-- What the setters of nodes in a row make of a name for which they all have one policy. -/
theorem get?_foldl_applySetters {policy : Policy} {separator name : String} {values : List String}
    {tokens : List Token} {attributes : Attributes} {nodes : List Occurrence}
    (single : ∀ node ∈ nodes, ∀ s ∈ node.element.setters, s.name = name → s.policy = policy)
    (settled : attributes.get? name = policy.choose separator values) :
    (nodes.foldl (applySetters tokens separator) attributes).get? name
      = policy.choose separator (values ++ valuesOf name tokens nodes) := by
  induction nodes generalizing attributes values with
  | nil => simpa [valuesOf] using settled
  | cons node nodes ih =>
    obtain ⟨first, others⟩ := List.forall_mem_cons.1 single
    rw [List.foldl_cons, valuesOf, List.flatMap_cons, ← List.append_assoc]
    refine ih others ?_
    rw [applySetters, Setter.applyAll?_getD]
    exact Setter.get?_applyAll first settled

end Occurrence

namespace Search

mutual

/-- What an occurrence sets is set by its nodes, one after another. -/
theorem settle_eq_foldl (scene : Scene) (attributes : Attributes) :
    (o : Occurrence) →
      scene.settle attributes o
        = o.postorder.foldl (Occurrence.applySetters scene.tokens scene.separator) attributes
  | .leaf e start stop matched => (Setter.applyAll?_getD _).symm
  | .group e start stop children => by
    rw [Scene.settle, settleAll_eq_foldl scene attributes children, Occurrence.postorder,
      List.foldl_append]
    exact (Setter.applyAll?_getD _).symm

theorem settleAll_eq_foldl (scene : Scene) (attributes : Attributes) :
    (os : List Occurrence) →
      scene.settleAll attributes os
        = (Occurrence.postorderAll os).foldl
          (Occurrence.applySetters scene.tokens scene.separator) attributes
  | [] => rfl
  | o :: rest => by
    rw [Scene.settleAll, settle_eq_foldl scene attributes o, settleAll_eq_foldl scene _ rest,
      Occurrence.postorderAll, List.foldl_append]

end

variable {config : Config} {tokens : List Token} {lookup : Lookup} {interrupted : Nat → Bool}
  {p : Pattern} {m : Match}

theorem exists_start_of_mem_find (mem : m ∈ find config tokens lookup interrupted p) :
    ∃ start, m ∈ matchesAt (.forPattern config tokens lookup p) p.elements start := by
  simp only [find, matchesFrom, List.mem_mergeSort, List.mem_flatMap] at mem
  obtain ⟨start, -, mem⟩ := mem
  exact ⟨start, mem⟩

/-- What elements in a row may be made up of is found by a search that is not interrupted. -/
theorem ofBlocks_mem_find (lawful : lookup.Lawful) (solid : SolidAll p.elements) {start stop : Nat}
    {blocks : List (List Derivation)} (within : start < tokens.length) (moved : stop ≠ start)
    (row : DerivesRow (.forPattern config tokens lookup p) p.elements start stop blocks) :
    Match.ofBlocks (.forPattern config tokens lookup p) start blocks stop
      ∈ find config tokens lookup (fun _ => false) p := by
  have listed := (mem_rowsAt (Scene.located_forPattern lawful) p.elements solid).2 row
  rw [mem_find]
  refine ⟨start, within, ?_⟩
  rw [matchesAt_eq]
  exact List.mem_map.2 ⟨(blocks, stop), List.mem_filter.2 ⟨listed, by simpa using moved⟩, rfl⟩

/-- One occurrence makes up an element that occurs once. -/
theorem IsBlock.once {derives : Nat → Nat → Derivation → Prop} {start stop : Nat} {d : Derivation}
    (here : derives start stop d) : IsBlock derives .once start stop [d] where
  chained := ⟨stop, here, rfl⟩
  enough := Nat.le_refl 1
  within := Nat.le_refl 1
  lean := by
    intro i d' at_i _
    obtain ⟨first, -⟩ := List.getElem?_eq_some_iff.1 at_i
    exact first

/-- What sets the attribute `words`. -/
def wordsSuffix : Suffix := ⟨.once, [⟨"words", none, .join none⟩]⟩

/-- A word that sets an attribute. -/
def word (text : String) : Element := .atom (.literal text [text]) wordsSuffix

/-- Two words in a group that sets the attribute of the words, too. -/
def pairOfWords : Element := .sequence [word "a", word "b"] wordsSuffix

/-- The pattern of such a group. -/
def wordsPattern : Pattern := ⟨"('a'@words 'b'@words)@words", [pairOfWords]⟩

end Search

end SpanSearch
