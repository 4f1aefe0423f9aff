import SpanSearch.Proofs.Layout.Contexts
import SpanSearch.Proofs.Pattern.RoundTrip

/-! # Compiling what is laid out

The layouts of the text of a pattern compile to the same pattern if the layouts keep its setters. If
they do not, there is a pattern with setters that are kept otherwise of which this is not true.
-/

namespace SpanSearch.Layout

open Unicode Pattern

section

variable {options : Options} {source : String} {p : Pattern} {s : Setter} {ps : List Piece}
  {w : List Char}

/-- If the layouts keep the setters of a row of words, they are rows of words for the same pieces. -/
theorem written_layouts (standard : options.engine = Expression.standard)
    (row : Written options source.toList ps) (kept : ∀ s, .setter s ∈ ps → Kept (printSetter s)) :
    ∀ text ∈ layouts source, Written options text.toList ps := by
  have keeps : ∀ w s, Word options w (.setter s) → .setter s ∈ ps → Kept w := by
    intro w s word mem
    rw [word_setter standard word]
    exact kept s mem
  have normalized {source : String} (row : Written options source.toList ps) :
      Written options (normalize source).toList ps := by
    rw [toList_normalize]
    exact written_oneLine row keeps none false
  have exploded : Written options (explode source).toList ps := by
    rw [toList_explode, ← List.nil_append ps]
    exact written_lines row keeps 0 (.nil blank_nil)
  intro text mem
  simp only [layouts, List.mem_cons, List.not_mem_nil, or_false] at mem
  rcases mem with rfl | rfl | rfl
  · exact exploded
  · exact normalized row
  · exact normalized exploded

/-- What a compiled pattern sets is written in its text. -/
theorem mem_settersOf (builds : Builds [] [] ps p.elements) :
    s ∈ settersOf p.elements ↔ .setter s ∈ ps := by
  rw [builds.setters.mem_iff, ← mem_settersOfPieces]
  simp [settersOfFrames]

theorem compile_layouts (standard : options.engine = Expression.standard)
    (h : compile options source = .ok p)
    (kept : ∀ s ∈ settersOf p.elements, Kept (printSetter s)) :
    ∀ text ∈ layouts source, compile options text = .ok ⟨text, p.elements⟩ := by
  obtain ⟨-, nonempty, ps, row, builds⟩ := compile_eq_ok_iff_written.1 h
  intro text mem
  have row' := written_layouts standard row
    (fun s mem => kept s ((mem_settersOf builds).2 mem)) text mem
  exact compile_eq_ok_iff_written.2 ⟨rfl, nonempty, ps, row', builds⟩

/-- All texts that have no setters but those of a compiled pattern, and others that are kept, compile
to patterns of the same structure in all their layouts, just if the setters of that pattern are kept. -/
theorem harmless_iff_kept (standard : options.engine = Expression.standard)
    (h : compile options source = .ok p) :
    Harmless options (fun s => s ∈ settersOf p.elements ∨ Kept (printSetter s))
      ↔ ∀ s ∈ settersOf p.elements, Kept (printSetter s) := by
  constructor
  · intro harmless s mem
    obtain ⟨a, w, shortest⟩ := exists_shortest h
    obtain ⟨-, -, ps, row, builds⟩ := compile_eq_ok_iff_written.1 h
    obtain ⟨w', -, word⟩ := Written.word row ((mem_settersOf builds).1 mem)
    rw [word_setter standard word] at word
    exact harmless.kept standard shortest (fun s sure => .inr sure.kept) (.inl mem) word
  · intro kept source' p' compiled allowed text mem
    have keeps : ∀ s ∈ settersOf p'.elements, Kept (printSetter s) := fun s mem =>
      (allowed s mem).elim (kept s) id
    exact ⟨_, compile_layouts standard compiled keeps text mem, sameList_refl p'.elements⟩

end

/-! ## Examples -/

/-- A setter with brackets in its expression and in its separator. -/
def bracketSetter : Setter :=
  ⟨"n", some ⟨"'(' = @x", .compare .equal (.constant (.text "(")) (.attr "x")⟩, .join (some "]")⟩

def tagWithBrackets : Pattern :=
  ⟨"<a> @('(' = @x):n[\\]]", [.atom (.tag ⟨"a", [], none⟩) ⟨.once, [bracketSetter]⟩]⟩

theorem compile_tagWithBrackets :
    compile ⟨.atSpace, Expression.standard, none⟩ "<a> @('(' = @x):n[\\]]" = .ok tagWithBrackets := by
  have tag : readPiece ⟨.atSpace, Expression.standard, none⟩ '<' "a> @('(' = @x):n[\\]]".toList
      = .ok (.atom (.tag ⟨"a", [], none⟩), " @('(' = @x):n[\\]]".toList) := by
    cbv
  have setter : readPiece ⟨.atSpace, Expression.standard, none⟩ '@' "('(' = @x):n[\\]]".toList
      = .ok (.setter bracketSetter, []) := by
    cbv
  exact compile_eq_ok.2 ⟨rfl, List.cons_ne_nil _ _, _,
    .cons rfl tag <| .cons rfl setter <| .nil rfl, .atom .done⟩

theorem kept_bracketSetter : Kept (printSetter bracketSetter) := by
  refine kept_printSetter ⟨by decide, List.all_eq_true.1 (by decide)⟩ ⟨?_, ?_⟩
  · rintro e ⟨rfl⟩
    simp [Closes, isQuote]
  · rintro separator ⟨rfl⟩
    simp [Closes, printSeparator]

theorem harmless_tagWithBrackets :
    compile ⟨.atSpace, Expression.standard, none⟩ "<a> @('(' = @x):n[\\]]" = .ok tagWithBrackets
      ∧ Harmless ⟨.atSpace, Expression.standard, none⟩
        (fun s => s ∈ settersOf tagWithBrackets.elements ∨ Kept (printSetter s)) := by
  refine ⟨compile_tagWithBrackets, (harmless_iff_kept rfl compile_tagWithBrackets).2 fun s mem => ?_⟩
  obtain rfl : s = bracketSetter := by simpa [tagWithBrackets] using mem
  exact kept_bracketSetter

/-- A tag with a setter, the separator of which has a backslash before a bracket. -/
def tagWithBackslash (separator : String) (source : String) : Pattern :=
  ⟨source, [.atom (.tag ⟨"a", [], none⟩) ⟨.once, [⟨"n", none, .join (some separator)⟩]⟩]⟩

theorem not_compile_layouts :
    compile ⟨.atSpace, Expression.standard, none⟩ "<a>@n[\\\\]  x]"
        = .ok (tagWithBackslash "\\]  x" "<a>@n[\\\\]  x]")
      ∧ ¬ ∀ text ∈ layouts "<a>@n[\\\\]  x]",
        ∃ q, compile ⟨.atSpace, Expression.standard, none⟩ text = .ok q
          ∧ q.same (tagWithBackslash "\\]  x" "<a>@n[\\\\]  x]") = true := by
  have tag (rest : List Char) : readPiece ⟨.atSpace, Expression.standard, none⟩ '<' ('a' :: '>' :: rest)
      = .ok (.atom (.tag ⟨"a", [], none⟩), rest) := by
    cbv
  have setter : readPiece ⟨.atSpace, Expression.standard, none⟩ '@' "n[\\\\]  x]".toList
      = .ok (.setter ⟨"n", none, .join (some "\\]  x")⟩, []) := by
    cbv
  have shorter : readPiece ⟨.atSpace, Expression.standard, none⟩ '@' "n[\\\\] x]".toList
      = .ok (.setter ⟨"n", none, .join (some "\\] x")⟩, []) := by
    cbv
  have normal : normalize "<a>@n[\\\\]  x]" = "<a>@n[\\\\] x]" := by
    cbv
  refine ⟨compile_eq_ok.2 ⟨rfl, List.cons_ne_nil _ _, _,
    .cons rfl (tag _) <| .cons rfl setter <| .nil rfl, .atom .done⟩, fun laidOut => ?_⟩
  have compiled : compile ⟨.atSpace, Expression.standard, none⟩ "<a>@n[\\\\] x]"
      = .ok (tagWithBackslash "\\] x" "<a>@n[\\\\] x]") :=
    compile_eq_ok.2 ⟨rfl, List.cons_ne_nil _ _, _,
      .cons rfl (tag _) <| .cons rfl shorter <| .nil rfl, .atom .done⟩
  obtain ⟨q, compile_q, same⟩ := laidOut _ (.tail _ (.head _))
  rw [normal, compiled] at compile_q
  cases compile_q
  exact absurd same (by decide)

end SpanSearch.Layout
