import SpanSearch.Proofs.Regex.Wrapping
import SpanSearch.Proofs.Search.Spans

/-! # Regular expressions that match entirely

A regular expression is compiled and looked for between anchors, in a group that its text is put into as
it stands. This does what it is for with the expressions that keep to the group: they are accepted if
they are valid, and their spans are those whose text they match from the start to the end.
-/

namespace SpanSearch

namespace Regex

/-- A regular expression as a pattern, where `raw` stands between the quotes. -/
def written (raw : List Char) : String := String.ofList ('"' :: (raw ++ ['"']))

/-- The regular expression that `raw` means between quotes. -/
def meant (raw : List Char) : List Char := Quoted.meaning false '"' raw

/-- Whether there are `size` tokens from `start` on, and no more than are within reach. -/
structure InReach (config : Config) (tokens : List Token) (start size : Nat) : Prop where
  pos : 0 < size
  reach : size ≤ config.regexReach
  within : start + size ≤ tokens.length

/-- Whether a regular expression is accepted just if it is valid on its own, and the spans within reach
that are filed for it are just those whose text it matches entirely on its own. -/
structure MatchesEntirely (config : Config) (tokens : List Token) (raw : List Char) : Prop where
  accepted : ∀ options, (∃ p, Pattern.compile options (written raw) = .ok p)
    ↔ ∃ regex, parse? (meant raw) = some regex
  filed : ∀ options text p, Pattern.compile options text = .ok p →
    String.ofList (meant raw) ∈ p.regexes → ∀ start size, InReach config tokens start size →
    (.ofSpan (spanType (String.ofList (meant raw))) start size
        ∈ (Literals.ofPattern config tokens p).toIndex.filed (spanType (String.ofList (meant raw))) start
      ↔ ∃ regex, parse? (meant raw) = some regex
        ∧ regex.Matches (Token.textOf tokens start (start + size)).toList)

end Regex

namespace Literals

open Pattern Regex

variable {config : Config} {tokens : List Token} {p : Pattern} {regex : Regex} {source : String}
  {start size : Nat} {raw : List Char}

theorem whole?_ofList (text : List Char) :
    whole? (String.ofList text) = parse? (wholly text) := by
  rw [whole?, String.toList_ofList]

/-- The pattern that is a regular expression and nothing else. -/
def regexPattern (raw : List Char) : Pattern :=
  ⟨written raw, [.atom (.regex (String.ofList (meant raw))) .plain]⟩

theorem mem_regexes_regexPattern (raw : List Char) :
    String.ofList (meant raw) ∈ (regexPattern raw).regexes :=
  List.mem_eraseDups.2 (List.mem_filterMap.2 ⟨_, List.mem_cons_self, rfl⟩)

/-- An expression that can be parsed between the anchors is accepted. -/
theorem compile_written (options : Options) (inside : Quoted.Inside '"' raw) (nonempty : raw ≠ [])
    (accepted : (parse? (wholly (meant raw))).isSome = true) :
    compile options (written raw) = .ok (regexPattern raw) := by
  have text : (written raw).toList = '"' :: (raw ++ ['"']) := String.toList_ofList
  have word : Word options ('"' :: (raw ++ ['"'])) _ := .regex inside nonempty accepted
  exact compile_eq_ok_iff_written.2
    ⟨rfl, List.cons_ne_nil _ _, _, text ▸ word.written, .atom .done⟩

/-- No other expression is accepted. -/
theorem compile_written_iff (options : Options) (inside : Quoted.Inside '"' raw)
    (nonempty : raw ≠ []) :
    (∃ p, compile options (written raw) = .ok p)
      ↔ ∃ whole, parse? (wholly (meant raw)) = some whole := by
  rw [← Option.isSome_iff_exists]
  refine ⟨?_, fun accepted => ⟨_, compile_written options inside nonempty accepted⟩⟩
  rintro ⟨p, compiled⟩
  obtain ⟨-, -, ps, spells, -⟩ := compile_eq_ok.1 compiled
  rw [written, String.toList_ofList] at spells
  obtain ⟨piece, after, others, -, reads, -⟩ := (spells_starts (trimStart_cons (by decide) _)).1 spells
  rw [readPiece_atom (by decide) (by decide) (by decide) (by decide) (by decide)] at reads
  obtain ⟨⟨atom, after'⟩, read, -⟩ := map_eq_ok.1 reads
  change readRegex (raw ++ ['"']) = .ok (atom, after') at read
  rw [readRegex, inside.read false (by decide)] at read
  dsimp only at read
  split at read
  · cases read
  · split at read
    · cases read
    · next accepted =>
      exact Option.isSome_iff_ne_none.2 fun none => accepted (Option.isNone_iff_eq_none.2 none)

/-- A span within reach is filed just if its text matches between the anchors, and the sum of its start
and of the reach does not wrap. -/
theorem mem_filed_iff (found : whole? source = some regex) (mem : source ∈ p.regexes)
    (words : config.regexTokens < Offset.limit) (few : tokens.length < Offset.limit)
    (inReach : InReach config tokens start size) :
    .ofSpan (spanType source) start size
        ∈ (ofPattern config tokens p).toIndex.filed (spanType source) start
      ↔ start + config.regexReach < Offset.limit
        ∧ regex.matchesIn (Token.textOf tokens start (start + size)).toList = true := by
  rw [filed_toIndex config tokens mem, mem_spansAt found mem words few]
  refine and_congr_right fun _ => ⟨?_, fun isMatch => ?_⟩
  · rintro ⟨size', fits, same⟩
    obtain rfl : size = size' := congrArg Annotation.size same
    exact fits.isMatch
  · exact ⟨size, ⟨inReach.pos, inReach.reach, inReach.within, isMatch⟩, rfl⟩

end Literals

end SpanSearch
