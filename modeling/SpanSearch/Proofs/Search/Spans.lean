import SpanSearch.Proofs.Keyed
import SpanSearch.Proofs.Pattern.Compiled

/-! # The spans of regular expressions in an index

The spans of a regular expression are filed under a type of their own, which no other expression
shares, and no two of one start have the same size. So the index holds each span that was collected,
in the order of their sizes. It has all spans that match unless the sum of an offset and of the
greatest number of tokens wraps: at such an offset nothing is collected, however short.
-/

namespace SpanSearch

namespace Literals

/-- The index in which the spans are filed, each under its type. -/
def toIndex (literals : Literals) : Index := Index.ofList literals.all

/-- Whether `size` tokens from `start` on are within reach, and their text matches. -/
structure Fits (config : Config) (tokens : List Token) (regex : Regex) (start size : Nat) : Prop where
  pos : 0 < size
  reach : size ≤ config.regexReach
  within : start + size ≤ tokens.length
  isMatch : regex.matchesIn (Token.textOf tokens start (start + size)).toList = true

/-- Whether an index holds just the spans that match under a type, each once, and those of one start
with ascending sizes. -/
structure Collects (index : Index) (type : String) (config : Config) (tokens : List Token)
    (regex : Regex) : Prop where
  mem_filed : ∀ start a, a ∈ index.filed type start
    ↔ ∃ size, Fits config tokens regex start size ∧ a = .ofSpan type start size
  ascending : ∀ start, (index.filed type start).Pairwise (·.size < ·.size)

variable {config : Config} {tokens : List Token} {p : Pattern} {regex : Regex}
  {source type : String} {reach length start begin : Nat} {a : Annotation}

/-! ## What is filed -/

theorem spanType_injective {source' : String} (same : Regex.spanType source = Regex.spanType source') :
    source = source' := by
  have inner := congrArg String.toList same
  simp only [Regex.spanType, String.toList_append] at inner
  exact String.toList_inj.1 (List.append_cancel_left (List.append_cancel_right inner))

theorem type_of_mem_spansFrom {room : Nat} (mem : a ∈ spansFrom regex type start room tokens) :
    a.type = type ∧ a.start = start := by
  obtain ⟨n, -, -, rfl⟩ := mem_spansFrom.1 mem
  exact ⟨rfl, rfl⟩

theorem ascending_spansFrom (regex : Regex) (type : String) (start room : Nat)
    (tokens : List Token) : (spansFrom regex type start room tokens).Pairwise (·.size < ·.size) := by
  refine List.Pairwise.map _ (fun n n' less => Nat.succ_lt_succ less) ?_
  exact List.pairwise_lt_range.filter _

theorem start_of_mem_spans {i : Nat} {found : List Annotation}
    (at_ : (spans regex type reach length start tokens)[i]? = some found) (mem : a ∈ found) :
    a.type = type ∧ a.start = start + i := by
  rw [getElem?_spans] at at_
  split at at_
  · cases at_
    exact type_of_mem_spansFrom mem
  · cases at_

/-- Of all spans, those of an offset are what was collected there. -/
theorem filter_flatten_spans (i : Nat) :
    (spans regex type reach length start tokens).flatten.filter (·.start == start + i)
      = ((spans regex type reach length start tokens)[i]?).getD [] := by
  induction tokens generalizing start i with
  | nil => rfl
  | cons token rest ih =>
    have here := fun a mem =>
      (@type_of_mem_spansFrom (token :: rest) regex type start a (room reach start length) mem).2
    rw [spans, List.flatten_cons, List.filter_append]
    cases i with
    | zero =>
      have none : (spans regex type reach length (start + 1) rest).flatten.filter
          (·.start == start + 0) = [] := by
        refine List.filter_eq_nil_iff.2 fun a mem => ?_
        obtain ⟨found, at_, mem⟩ := List.mem_flatten.1 mem
        obtain ⟨i, at_⟩ := List.mem_iff_getElem?.1 at_
        rw [(start_of_mem_spans at_ mem).2, beq_iff_eq]
        omega
      rw [none, List.append_nil, List.getElem?_cons_zero, Option.getD_some]
      exact List.filter_eq_self.2 fun a mem => beq_iff_eq.2 (here a mem)
    | succ i =>
      have none : (spansFrom regex type start (room reach start length) (token :: rest)).filter
          (·.start == start + (i + 1)) = [] := by
        refine List.filter_eq_nil_iff.2 fun a mem => ?_
        rw [here a mem, beq_iff_eq]
        omega
      rw [none, List.nil_append, List.getElem?_cons_succ, Nat.add_comm i 1, ← Nat.add_assoc]
      exact ih i

theorem type_of_mem_ofRegex (mem : a ∈ (ofRegex config tokens source).toList.flatten) :
    a.type = Regex.spanType source := by
  unfold ofRegex at mem
  split at mem
  · rw [List.toList_toArray] at mem
    obtain ⟨found, at_, mem⟩ := List.mem_flatten.1 mem
    obtain ⟨i, at_⟩ := List.mem_iff_getElem?.1 at_
    exact (start_of_mem_spans at_ mem).1
  · cases mem

/-- What is found for a key in a list of keys with their values, of which none is there twice. -/
theorem lookup_of_mem (f : String → Array (List Annotation)) {sources : List String}
    (mem : source ∈ sources) :
    (sources.map fun source => (source, f source)).lookup source = some (f source) := by
  induction sources with
  | nil => cases mem
  | cons source' sources ih =>
    rw [List.map_cons, List.lookup_cons]
    split
    · next same => rw [beq_iff_eq.1 same]
    · next differ => exact ih ((List.mem_cons.1 mem).resolve_left (by simpa using differ))

/-- Under the type of one of several expressions there are the spans of that one. -/
theorem filter_type_all {sources : List String} (nodup : sources.Nodup) (mem : source ∈ sources) :
    (sources.flatMap fun source => (ofRegex config tokens source).toList.flatten).filter
        (·.type == Regex.spanType source)
      = (ofRegex config tokens source).toList.flatten := by
  induction sources with
  | nil => cases mem
  | cons source' sources ih =>
    obtain ⟨absent, nodup⟩ := List.nodup_cons.1 nodup
    have others (source' : String) (differ : source' ≠ source) :
        (ofRegex config tokens source').toList.flatten.filter (·.type == Regex.spanType source)
          = [] := by
      refine List.filter_eq_nil_iff.2 fun a mem => ?_
      rw [type_of_mem_ofRegex mem, beq_iff_eq]
      exact fun same => differ (spanType_injective same)
    rw [List.flatMap_cons, List.filter_append]
    rcases List.mem_cons.1 mem with rfl | mem
    · have none : (sources.flatMap fun source => (ofRegex config tokens source).toList.flatten).filter
          (·.type == Regex.spanType source) = [] := by
        rw [List.filter_flatMap]
        exact List.flatMap_eq_nil_iff.2 fun source' mem =>
          others source' fun same => absent (same ▸ mem)
      rw [none, List.append_nil]
      exact List.filter_eq_self.2 fun a mem => beq_iff_eq.2 (type_of_mem_ofRegex mem)
    · rw [others source' fun same => absent (same ▸ mem), List.nil_append, ih nodup mem]

/-- Annotations of different sizes are all kept. -/
theorem foldl_join_of_ascending {before annotations : List Annotation}
    (ascending : (before ++ annotations).Pairwise (·.size < ·.size)) :
    annotations.foldl join before = before ++ annotations := by
  induction annotations generalizing before with
  | nil => exact (List.append_nil _).symm
  | cons a annotations ih =>
    have free : hasSize before a = false :=
      hasSize_eq_false.2 fun b mem => Nat.ne_of_lt
        ((List.pairwise_append.1 ascending).2.2 b mem a List.mem_cons_self)
    rw [List.append_cons] at ascending
    rw [List.foldl_cons, join, free, if_neg Bool.false_ne_true, ih ascending, ← List.append_cons]

/-- The index gives what the search looks up. -/
theorem filed_toIndex (config : Config) (tokens : List Token) (mem : source ∈ p.regexes)
    (start : Nat) :
    (ofPattern config tokens p).toIndex.filed (Regex.spanType source) start
      = (ofPattern config tokens p).spansAt source start := by
  have nodup : p.regexes.Nodup := Keyed.nodup_eraseDups _
  have all : (ofPattern config tokens p).all
      = p.regexes.flatMap fun source => (ofRegex config tokens source).toList.flatten := by
    rw [Literals.all, ofPattern, List.flatMap_map]
  have found : (ofPattern config tokens p).spansAt source start
      = ((ofRegex config tokens source)[start]?).getD [] := by
    rw [spansAt, ofPattern, lookup_of_mem _ mem, Option.bind_some]
  have empty : Index.empty.filed (Regex.spanType source) start = [] := rfl
  rw [toIndex, Index.ofList, Index.filed_addAll rfl, all, filter_type_all nodup mem, found, ofRegex,
    empty]
  split
  · next regex _ =>
    have here := @filter_flatten_spans tokens regex (Regex.spanType source) config.regexReach
      tokens.length 0 start
    rw [Nat.zero_add] at here
    rw [List.toList_toArray, here, List.getElem?_toArray]
    refine foldl_join_of_ascending ?_
    rw [List.nil_append, getElem?_spans]
    split
    · exact ascending_spansFrom ..
    · exact .nil
  · rfl

/-! ## What is collected -/

/-- There is room for as many tokens as are within reach and are left, unless the sum of the offset
and of the reach wraps. -/
theorem room_eq (reachable : reach < Offset.limit) (start_lt : start < Offset.limit) :
    room reach start length
      = if start + reach < Offset.limit then min reach (length - start) else 0 := by
  unfold room Offset.add
  split
  · next small =>
    rw [Nat.mod_eq_of_lt small]
    omega
  · next large =>
    rw [Nat.mod_eq_sub_mod (Nat.not_lt.1 large), Nat.mod_eq_of_lt (by omega)]
    omega

/-- At an offset there are all spans that match if its sum with the reach does not wrap, and none
otherwise. -/
theorem mem_spansAt (found : Regex.whole? source = some regex) (mem : source ∈ p.regexes)
    (words : config.regexTokens < Offset.limit) (few : tokens.length < Offset.limit) :
    a ∈ (ofPattern config tokens p).spansAt source start
      ↔ start + config.regexReach < Offset.limit
        ∧ ∃ size, Fits config tokens regex start size ∧ a = .ofSpan (Regex.spanType source) start size
    := by
  have reachable : config.regexReach < Offset.limit := Nat.max_lt.2 ⟨words, by decide⟩
  have text (size : Nat) : (tokens.drop start).take size = (tokens.take (start + size)).drop start := by
    rw [List.drop_take, Nat.add_sub_cancel_left]
  rw [spansAt, ofPattern, lookup_of_mem _ mem, Option.bind_some, ofRegex, found,
    List.getElem?_toArray, getElem?_spans, Nat.zero_add]
  split
  · next within =>
    rw [Option.getD_some, mem_spansFrom, room_eq reachable (within.trans few)]
    split
    · next unwrapped =>
      rw [and_iff_right unwrapped]
      constructor
      · rintro ⟨n, lt, isMatch, rfl⟩
        refine ⟨n + 1, ⟨Nat.succ_pos n, by omega, by omega, ?_⟩, rfl⟩
        rwa [Token.textOf, ← text]
      · rintro ⟨size, fits, rfl⟩
        obtain ⟨n, rfl⟩ := Nat.exists_eq_add_of_lt fits.pos
        rw [Nat.zero_add] at fits ⊢
        refine ⟨n, ?_, ?_, rfl⟩
        · have := fits.reach
          have := fits.within
          omega
        · rw [text]
          exact fits.isMatch
    · next wraps => exact iff_of_false (by simp) fun h => wraps h.1
  · next beyond =>
    refine iff_of_false (by simp) ?_
    rintro ⟨-, size, fits, -⟩
    have := fits.pos
    have := fits.within
    omega

/-- The regular expressions of a compiled pattern are accepted as whole ones. -/
theorem exists_whole {options : Pattern.Options} {text : String}
    (compiled : Pattern.compile options text = .ok p) (mem : source ∈ p.regexes) :
    ∃ regex, Regex.whole? source = some regex := by
  obtain ⟨e, walked, is_⟩ := List.mem_filterMap.1 (List.mem_eraseDups.1 mem)
  have wellFormed := (Pattern.wellFormed_of_compile compiled).2 e walked
  obtain ⟨s, rfl⟩ : ∃ s, e = .atom (.regex source) s := by
    split at is_
    · next source' s =>
      cases is_
      exact ⟨s, rfl⟩
    · cases is_
  exact Option.isSome_iff_exists.1 wellFormed.filled.2

/-- The pattern that is a regular expression for one letter. -/
def letterPattern : Pattern := ⟨"\"b\"", [.atom (.regex "b") .plain]⟩

theorem compile_letterPattern :
    Pattern.compile ⟨.standard, Expression.standard, none⟩ "\"b\"" = .ok letterPattern :=
  Pattern.compile_eq_ok.2 ⟨rfl, List.cons_ne_nil _ _, _, .cons rfl rfl (.nil rfl), .atom .done⟩

/-- A configuration in which as many tokens are within reach as can be asked for. -/
def farthest : Config := { regexTokens := Offset.greatest }

end Literals

end SpanSearch
