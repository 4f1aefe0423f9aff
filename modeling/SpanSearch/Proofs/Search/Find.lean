import SpanSearch.Proofs.Index.Lawful
import SpanSearch.Proofs.Pattern.WellFormed
import SpanSearch.Proofs.Search.Meaning

/-! # What a search finds

A search among the spans of the regular expressions of a pattern and the annotations of a lawful
lookup finds just what the pattern means: its spans are those of the pattern, and its trees at an
offset are those of the derivations there, each of which is found once.
-/

namespace SpanSearch

/-! ## The spans of regular expressions -/

namespace Literals

variable {regex : Regex} {type : String} {reach length start : Nat} {tokens : List Token}
  {a : Annotation}

theorem mem_spansFrom {room : Nat} :
    a ∈ spansFrom regex type start room tokens
      ↔ ∃ n < room, regex.matchesIn (Token.join (tokens.take (n + 1))).toList = true
          ∧ .ofSpan type start (n + 1) = a := by
  simp only [spansFrom, List.mem_map, List.mem_filter, List.mem_range, and_assoc]

theorem nodup_spansFrom {room : Nat} : (spansFrom regex type start room tokens).Nodup := by
  refine (List.nodup_range.filter _).map fun n n' same => ?_
  have size : n + 1 = n' + 1 := congrArg Annotation.size same
  exact Nat.succ.inj size

/-- The spans at an offset are those from there on. -/
theorem getElem?_spans (i : Nat) :
    (spans regex type reach length start tokens)[i]?
      = if i < tokens.length then
          some (spansFrom regex type (start + i) (room reach (start + i) length) (tokens.drop i))
        else none := by
  induction tokens generalizing start i with
  | nil => simp [spans]
  | cons token rest ih =>
    cases i with
    | zero => simp [spans]
    | succ i =>
      simp only [spans, List.getElem?_cons_succ, ih, List.length_cons, Nat.add_lt_add_iff_right,
        List.drop_succ_cons, Nat.add_assoc, Nat.add_comm 1 i]

theorem lookup_map (f : String → Array (List Annotation)) {sources : List String}
    {source : String} {found : Array (List Annotation)}
    (h : (sources.map fun source => (source, f source)).lookup source = some found) :
    found = f source := by
  induction sources with
  | nil => cases h
  | cons source' sources ih =>
    rw [List.map_cons, List.lookup_cons] at h
    split at h
    · next same =>
      obtain rfl : source = source' := by simpa using same
      exact (Option.some.inj h).symm
    · exact ih h

/-- The spans that are looked up are those of the expression, or there are none. -/
theorem spansAt_ofPattern (config : Config) (tokens : List Token) (p : Pattern) (source : String)
    (start : Nat) :
    (ofPattern config tokens p).spansAt source start = []
      ∨ ∃ regex, (ofPattern config tokens p).spansAt source start
          = spansFrom regex (Regex.spanType source) start
              (room config.regexReach start tokens.length) (tokens.drop start) := by
  unfold spansAt
  cases found : (ofPattern config tokens p).lookup source with
  | none => exact .inl rfl
  | some spansOf =>
    rw [lookup_map _ found, Option.bind_some, ofRegex]
    split
    · next regex _ =>
      rw [List.getElem?_toArray, getElem?_spans, Nat.zero_add]
      split
      · exact .inr ⟨regex, rfl⟩
      · exact .inl rfl
    · exact .inl rfl

/-- What is looked up at an offset starts there, has a token and does not wrap. -/
theorem located_spansAt {config : Config} {p : Pattern} {source : String}
    (mem : a ∈ (ofPattern config tokens p).spansAt source start) :
    a.start = start ∧ 0 < a.size ∧ a.Bounded := by
  rcases spansAt_ofPattern config tokens p source start with none | ⟨regex, some⟩
  · rw [none] at mem
    cases mem
  · rw [some, mem_spansFrom] at mem
    obtain ⟨n, within, -, rfl⟩ := mem
    refine ⟨rfl, Nat.succ_pos n, ?_⟩
    have bound := Offset.add_lt start config.regexReach
    unfold room at within
    change start + (n + 1) < Offset.limit
    omega

theorem nodup_spansAt (config : Config) (tokens : List Token) (p : Pattern) (source : String)
    (start : Nat) : ((ofPattern config tokens p).spansAt source start).Nodup := by
  rcases spansAt_ofPattern config tokens p source start with none | ⟨regex, some⟩
  · rw [none]
    exact .nil
  · rw [some]
    exact nodup_spansFrom

end Literals

namespace Search

/-! ## The scene of a pattern -/

section

variable {config : Config} {tokens : List Token} {lookup : Lookup} {p : Pattern}

theorem Scene.located_forPattern (lawful : lookup.Lawful) :
    (Scene.forPattern config tokens lookup p).Located :=
  ⟨Literals.located_spansAt, fun mem => ⟨lawful.starts mem, lawful.bounded mem⟩⟩

theorem Scene.distinct_forPattern (lawful : lookup.Lawful) :
    (Scene.forPattern config tokens lookup p).Distinct :=
  ⟨Literals.nodup_spansAt config tokens p,
    fun type start => (lawful.sizes type start).imp fun differ same => differ (congrArg _ same)⟩

/-! ## The matches -/

theorem le_of_rowSpans {scene : Scene} (located : scene.Located) {es : List Element}
    (solid : SolidAll es) {start stop : Nat} (h : RowSpans scene es start stop) : start ≤ stop := by
  rw [rowSpans_eq] at h
  obtain ⟨blocks, row⟩ := h
  exact le_of_derivesRow located es solid row

theorem start_of_mem_matchesAt {scene : Scene} {es : List Element} {start : Nat} {m : Match}
    (mem : m ∈ matchesAt scene es start) : m.start = start := by
  rw [matchesAt_eq] at mem
  obtain ⟨_, -, rfl⟩ := List.mem_map.1 mem
  rfl

/-- A search that is not interrupted finds the matches at all offsets. -/
theorem mem_find {m : Match} :
    m ∈ find config tokens lookup (fun _ => false) p
      ↔ ∃ start < tokens.length,
          m ∈ matchesAt (.forPattern config tokens lookup p) p.elements start := by
  have all : starts tokens (fun _ => false) = List.range tokens.length :=
    List.takeWhile_eq_self_iff.2 fun _ _ => rfl
  simp only [find, matchesFrom, all, List.mem_mergeSort, List.mem_flatMap, List.mem_range]

/-- A group that may be empty, once or more often. -/
def repeatedOption : Pattern :=
  ⟨"('a'?)+", [.sequence [.atom (.literal "a" ["a"]) ⟨⟨0, 1⟩, []⟩] ⟨⟨1, Bounds.unbounded⟩, []⟩]⟩

theorem compile_repeatedOption :
    Pattern.compile ⟨.atSpace, Expression.standard, none⟩ "('a'?)+" = .ok repeatedOption := by
  have tokens : Tokenizer.atSpace.tokens "a" = [.ofText "a"] := by decide +kernel
  have literal : Pattern.readPiece ⟨.atSpace, Expression.standard, none⟩ '\'' "a'?)+".toList
      = .ok (.atom (.literal "a" ["a"]), "?)+".toList) := by
    simp [Pattern.readPiece, Pattern.readAtom, Pattern.readLiteral, Quoted.read,
      Pattern.isQuantifierMark, tokens, Token.ofText, Except.map]
  exact Pattern.compile_eq_ok.2 ⟨rfl, List.cons_ne_nil _ _, _,
    .cons rfl rfl <| .cons rfl literal <| .cons rfl rfl <| .cons rfl rfl <| .cons rfl rfl <|
      .nil rfl,
    .opening <| .atom <| .closing (List.cons_ne_nil _ _) .done⟩

end

end Search

end SpanSearch
