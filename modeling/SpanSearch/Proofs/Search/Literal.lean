import SpanSearch.Proofs.Search.Find
import SpanSearch.Proofs.Pattern.Words
import SpanSearch.Proofs.Token.Apart

/-! # Literals in the documents that they are taken from

A literal is found where the tokens have its texts. The texts of a literal that was taken from a
document are those of the tokens that it was taken from, since their text is cut in the same way by
itself as within the document.
-/

namespace SpanSearch

open Unicode

namespace Pattern

/-- The text of a pattern that is one literal. -/
def literalSource (text : String) : String := String.ofList (quoted true '\'' text)

/-- A pattern that is one literal compiles to the texts of its tokens, if it has some. -/
theorem compile_literalSource (options : Options) {text : String}
    (filled : options.tokenizer.tokens text ≠ []) :
    compile options (literalSource text) = .ok ⟨literalSource text,
      [.atom (.literal text ((options.tokenizer.tokens text).map (·.text))) .plain]⟩ := by
  have ordinary : '\'' ≠ '\\' := by decide
  obtain ⟨inside, same⟩ := Quoted.inside_escape ordinary text.toList
  have word : Word options _ _ := .literal inside (by rwa [same, String.ofList_toList])
  rw [same, String.ofList_toList] at word
  have row := Written.cons blank_nil word (.nil blank_nil)
  rw [List.nil_append, List.append_nil] at row
  have written : Written options (literalSource text).toList
      [.atom (.literal text ((options.tokenizer.tokens text).map (·.text)))] := by
    rw [literalSource, String.toList_ofList]
    exact row
  refine compile_eq_ok_iff_written.2 ⟨rfl, List.cons_ne_nil _ _, _, written, ?_⟩
  refine .atom ?_
  exact .done

end Pattern

namespace Search

/-- Of an element that occurs once, every block is one occurrence. -/
theorem blocksFrom_once (occurrences : Nat → Nat → List Derivation) (start : Nat) :
    blocksFrom occurrences .once 0 start = (occurrences 0 start).map fun d => ([d], d.stop) := by
  have last (stop : Nat) : blocksFrom occurrences .once 1 stop = [([], stop)] := by
    rw [blocksFrom]
    rfl
  rw [blocksFrom, if_neg (by decide), if_pos (by decide), List.nil_append, List.map_eq_flatMap]
  simp only [Nat.zero_add, last, List.map_cons, List.map_nil]

/-- A row of one atom ends where the atom does. -/
theorem rowsAt_plain (scene : Scene) (a : Atom) (start : Nat) :
    rowsAt scene [.atom a .plain] start
      = (scene.ends start a).map fun (stop, matched) =>
          ([[.leaf (.atom a .plain) start stop matched]], stop) := by
  have blocks := blocksFrom_once (occurrencesAt scene (.atom a .plain)) start
  rw [rowsAt, show Element.bounds (.atom a .plain) = .once from rfl]
  dsimp only
  rw [blocks]
  simp only [rowsAt, occurrencesAt, List.map_cons, List.map_nil, List.map_map, List.flatMap_map]
  exact List.map_eq_flatMap.symm

/-- The matches of a literal end after as many tokens as it has texts, if these are the texts of
the tokens. -/
theorem exists_matchesAt_literal {scene : Scene} {text : String} {texts : List String}
    {start stop : Nat} :
    (∃ m ∈ matchesAt scene [.atom (.literal text texts) .plain] start, m.stop = stop)
      ↔ texts ≠ [] ∧ ((scene.tokens.drop start).take texts.length).map (·.text) = texts
        ∧ stop = start + texts.length := by
  have ends (stop : Nat) (matched : Option Annotation) :
      (stop, matched) ∈ scene.ends start (.literal text texts)
        ↔ (((scene.tokens.drop start).take texts.length).map (·.text) = texts
          ∧ stop = start + texts.length) ∧ matched = none := by
    simp only [Scene.ends, beq_iff_eq]
    split
    · next same => simp only [same, List.mem_singleton, Prod.mk.injEq, true_and]
    · next differ => simp only [differ, List.not_mem_nil, false_and]
  have moves : start + texts.length ≠ start ↔ texts ≠ [] := by
    simp
  rw [matchesAt_eq, rowsAt_plain]
  constructor
  · rintro ⟨m, mem, rfl⟩
    obtain ⟨⟨blocks, stop⟩, kept, rfl⟩ := List.mem_map.1 mem
    obtain ⟨row, moved⟩ := List.mem_filter.1 kept
    obtain ⟨⟨_, matched⟩, here, eq⟩ := List.mem_map.1 row
    obtain ⟨-, rfl⟩ := Prod.mk.inj eq
    obtain ⟨⟨same, rfl⟩, -⟩ := (ends _ matched).1 here
    exact ⟨moves.1 (by simpa using moved), same, rfl⟩
  · rintro ⟨filled, same, rfl⟩
    refine ⟨_, List.mem_map_of_mem (List.mem_filter.2 ⟨List.mem_map_of_mem
      ((ends _ none).2 ⟨⟨same, rfl⟩, rfl⟩), ?_⟩), rfl⟩
    simpa using filled

variable {config : Config} {tokens : List Token} {lookup : Lookup}

/-- A literal is found where the tokens have its texts. -/
theorem exists_find_literal_iff {source text : String} {texts : List String} {start stop : Nat} :
    (∃ m ∈ find config tokens lookup (fun _ => false)
        ⟨source, [.atom (.literal text texts) .plain]⟩, m.start = start ∧ m.stop = stop)
      ↔ texts ≠ [] ∧ ((tokens.drop start).take texts.length).map (·.text) = texts
        ∧ stop = start + texts.length := by
  simp only [mem_find]
  constructor
  · rintro ⟨m, ⟨start', -, mem⟩, rfl, rfl⟩
    obtain rfl := start_of_mem_matchesAt mem
    exact exists_matchesAt_literal.1 ⟨m, mem, rfl⟩
  · intro covers
    have within : start < tokens.length := by
      obtain ⟨filled, same, -⟩ := covers
      by_contra beyond
      rw [List.drop_eq_nil_of_le (Nat.not_lt.1 beyond)] at same
      exact filled (by simpa using same.symm)
    let scene := Scene.forPattern config tokens lookup
      ⟨source, [.atom (.literal text texts) .plain]⟩
    obtain ⟨m, mem, rfl⟩ := (@exists_matchesAt_literal scene text texts start stop).2 covers
    exact ⟨m, ⟨start, within, mem⟩, start_of_mem_matchesAt mem, rfl⟩

end Search

namespace Document

/-- A literal that is written with the text of a range of tokens compiles to the texts of these
tokens, and is found at this range. -/
theorem exists_find_literalSource (text : String) (engine : Expression.Engine)
    (knownTypes : Option (List String)) (config : Config) (lookup : Search.Lookup)
    {start stop : Nat} (forward : start < stop)
    (within : stop ≤ (ofText .standard text).tokens.length) :
    let tokens := (ofText .standard text).tokens
    let literal := Token.textOf tokens start stop
    ∃ p, Pattern.compile ⟨.standard, engine, knownTypes⟩ (Pattern.literalSource literal) = .ok p
      ∧ p.elements
        = [.atom (.literal literal (((tokens.take stop).drop start).map (·.text))) .plain]
      ∧ ∃ m ∈ Search.find config tokens lookup (fun _ => false) p,
          m.start = start ∧ m.stop = stop := by
  intro tokens literal
  have clean : ∀ t ∈ (tokens.take stop).drop start, t.Clean := fun t mem =>
    Cut.clean_tokens text.toList t (List.mem_of_mem_take (List.mem_of_mem_drop mem))
  have apart : Token.Apart ((tokens.take stop).drop start) :=
    ((Token.apart_tokens text.toList).take stop).drop start
  have cut : (Tokenizer.standard.tokens literal).map (·.text)
      = ((tokens.take stop).drop start).map (·.text) :=
    (Token.tokens_join_iff clean).2 apart
  have length : ((tokens.take stop).drop start).length = stop - start := by
    rw [List.length_drop, List.length_take, Nat.min_eq_left within]
  have filled : ((tokens.take stop).drop start).map (·.text) ≠ [] := by
    refine List.ne_nil_of_length_pos ?_
    rw [List.length_map]
    omega
  have cuts : Tokenizer.standard.tokens literal ≠ [] := fun none =>
    filled (by rw [← cut, none, List.map_nil])
  have compiled := Pattern.compile_literalSource ⟨.standard, engine, knownTypes⟩ cuts
  rw [cut] at compiled
  refine ⟨_, compiled, rfl, Search.exists_find_literal_iff.2 ⟨filled, ?_, ?_⟩⟩
  · rw [List.length_map, length, ← List.drop_take]
  · rw [List.length_map, length]
    omega

theorem exists_find_literalSource_quote :
    ∃ p, Pattern.compile ⟨.standard, Expression.standard, none⟩ "'it\\'s 1,5'" = .ok p
      ∧ p.elements = [.atom (.literal "it's 1,5" ["it's", "1,5"]) .plain]
      ∧ ∃ m ∈ Search.find {} (ofText .standard "it's 1,5.").tokens (Index.ofList []).filed
          (fun _ => false) p, m.start = 0 ∧ m.stop = 2 := by
  have literal : Token.textOf (ofText .standard "it's 1,5.").tokens 0 2 = "it's 1,5" := by
    decide +kernel
  have texts : (((ofText .standard "it's 1,5.").tokens.take 2).drop 0).map (·.text)
      = ["it's", "1,5"] := by
    decide +kernel
  have source : Pattern.literalSource "it's 1,5" = "'it\\'s 1,5'" := by decide +kernel
  have found := exists_find_literalSource "it's 1,5." Expression.standard none {}
    (Index.ofList []).filed (by decide : 0 < 2) (by decide +kernel)
  dsimp only at found
  rwa [literal, texts, source] at found

end Document

end SpanSearch
