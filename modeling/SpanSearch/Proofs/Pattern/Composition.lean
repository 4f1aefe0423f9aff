import Mathlib
import SpanSearch.Proofs.Pattern.Printed

/-! # Patterns put together

What a pattern compiles to does not depend on what stands around it. Its pieces stay the same, as its
text starts and ends at the bounds of words, and they build the same elements after others and in
groups. So patterns in a row compile to their elements in a row, and parentheses make one element of
them.
-/

namespace SpanSearch.Pattern

/-! ## Suffixes before other pieces -/

section

variable {frames : List Frame} {elements out : List Element} {ps rest : List Piece}

/-- What builds elements does not go on with the suffix of an element before it. -/
theorem Builds.endsSuffix (h : Builds frames elements ps out) : EndsSuffix ps := by
  cases h with
  | done => exact fun _ first => nomatch first
  | closing => exact endsSuffix_closing
  | bar => exact endsSuffix_bar
  | opening | atom =>
    intro p first
    cases first
    exact ⟨nofun, nofun⟩

/-- A row of pieces that does not go on with a suffix starts without one. -/
theorem EndsSuffix.takeSuffix_eq (ends : EndsSuffix ps) : takeSuffix ps = (.plain, ps) :=
  takeSuffix_pieces .plain ends

theorem EndsSuffix.takeSetters_append (ends : EndsSuffix rest) (ps : List Piece) :
    takeSetters (ps ++ rest) = ((takeSetters ps).1, (takeSetters ps).2 ++ rest) := by
  induction ps using takeSetters.induct with
  | case1 s ps ih => rw [List.cons_append, takeSetters, takeSetters, ih]
  | case2 ps other =>
    rw [takeSetters.eq_2 ps other]
    cases ps with
    | nil => exact takeSetters_pieces [] ends
    | cons p ps =>
      refine takeSetters.eq_2 _ fun s ps' same => ?_
      exact other s ps (by rw [(List.cons.inj same).1])

/-- The suffix that a row of pieces starts with is the same before others that do not go on with
it. -/
theorem EndsSuffix.takeSuffix_append (ends : EndsSuffix rest) (ps : List Piece) :
    takeSuffix (ps ++ rest) = ((takeSuffix ps).1, (takeSuffix ps).2 ++ rest) := by
  cases ps with
  | nil => exact ends.takeSuffix_eq
  | cons p ps =>
    cases p with
    | bounds b =>
      simp only [List.cons_append, takeSuffix, takeBounds, ends.takeSetters_append ps]
    | setter s =>
      have setters := ends.takeSetters_append (.setter s :: ps)
      simp only [List.cons_append] at setters
      simp only [List.cons_append, takeSuffix, takeBounds, setters]
    | _ => rfl

end

/-! ## Elements and groups around what is built -/

/-- The elements of the innermost group when `before` stands before all that is built. -/
def elementsWithin (before : List Element) : List Frame → List Element → List Element
  | [], elements => before ++ elements
  | _ :: _, elements => elements

/-- The groups that are open when `before` stands before all that is built, in the groups `outer`. -/
def framesWithin (outer : List Frame) (before : List Element) : List Frame → List Frame
  | [] => outer
  | frame :: frames =>
    ⟨elementsWithin before frames frame.before, frame.branches⟩ :: framesWithin outer before frames

section

variable {frames outer : List Frame} {before elements es es' out final : List Element}
  {ps ps' rest : List Piece}

theorem elementsWithin_append (frames : List Frame) (es es' : List Element) :
    elementsWithin before frames (es ++ es') = elementsWithin before frames es ++ es' := by
  cases frames with
  | nil => exact (List.append_assoc before es es').symm
  | cons frame frames => rfl

/-- What pieces build by themselves they build after other elements and in groups, too, and what
follows them goes on from there. -/
theorem Builds.within (h : Builds frames elements ps out)
    (next : Builds outer (before ++ out) rest final) :
    Builds (framesWithin outer before frames) (elementsWithin before frames elements) (ps ++ rest)
      final := by
  have ends := next.endsSuffix
  induction h with
  | done => exact next
  | opening inner ih => exact .opening (ih next)
  | @closing frame frames elements out ps filled around ih =>
    rw [List.cons_append]
    refine .closing filled ?_
    rw [ends.takeSuffix_append]
    have later := ih next
    rw [elementsWithin_append] at later
    exact later
  | bar filled later ih => exact .bar filled (ih next)
  | @atom frames elements out a ps later ih =>
    rw [List.cons_append]
    refine .atom ?_
    rw [ends.takeSuffix_append, ← elementsWithin_append]
    exact ih next

/-- What pieces build by themselves they build in the innermost of any groups. -/
theorem Builds.inside (h : Builds [] [] ps es) (next : Builds outer es rest final) :
    Builds outer [] (ps ++ rest) final := by
  have whole : Builds outer ([] ++ es) rest final := next
  exact h.within whole

theorem Builds.append (h : Builds [] [] ps es) (h' : Builds [] [] ps' es') :
    Builds [] [] (ps ++ ps') (es ++ es') := by
  have later : Builds [] (es ++ []) (ps' ++ []) (es ++ es') := h'.within .done
  rw [List.append_nil, List.append_nil] at later
  exact h.inside later

/-- The end of a group that nothing follows. -/
theorem builds_closing {branches : List (List Element)} (filled : es ≠ []) :
    Builds [⟨[], branches⟩] es [.closing] [ofBranches (branches ++ [es]) .plain] :=
  .closing filled .done

theorem Builds.parenthesized (h : Builds [] [] ps es) (filled : es ≠ []) :
    Builds [] [] (.opening :: (ps ++ [.closing])) [.sequence es .plain] :=
  .opening (h.inside (builds_closing filled))

theorem Builds.either (h : Builds [] [] ps es) (filled : es ≠ []) (h' : Builds [] [] ps' es')
    (filled' : es' ≠ []) :
    Builds [] [] (.opening :: (ps ++ .bar :: (ps' ++ [.closing])))
      [.choice [ofBranch es, ofBranch es'] .plain] :=
  .opening (h.inside (.bar filled (h'.inside (builds_closing filled'))))

end

/-! ## Texts -/

section

variable {options : Options} {a b : String} {p q : Pattern} {cs cs' : List Char}
  {ps ps' : List Piece}

theorem Written.spaced (h : Written options cs ps) (h' : Written options cs' ps') :
    Written options (cs ++ ' ' :: cs') (ps ++ ps') := by
  have blank : Written options [' '] [] := .nil (by simp [Blank, Unicode.isSpace])
  exact h.append (blank.append h')

theorem Written.parenthesized (h : Written options cs ps) :
    Written options ('(' :: (cs ++ [')'])) (.opening :: (ps ++ [.closing])) :=
  Word.opening.written.append (h.append Word.closing.written)

theorem Written.either (h : Written options cs ps) (h' : Written options cs' ps') :
    Written options ('(' :: (cs ++ '|' :: (cs' ++ [')'])))
      (.opening :: (ps ++ .bar :: (ps' ++ [.closing]))) :=
  Word.opening.written.append
    (h.append (Word.bar.written.append (h'.append Word.closing.written)))

/-- Patterns with a blank between them compile to the elements of the first and then those of the
second. In parentheses a pattern is a plain sequence of its elements, and two with a bar between them
are a plain choice of two branches, each of which is the one element of the pattern or the plain
sequence of several. -/
theorem compile_composed (first : compile options a = .ok p) (second : compile options b = .ok q) :
    compile options (a ++ " " ++ b) = .ok ⟨a ++ " " ++ b, p.elements ++ q.elements⟩
      ∧ compile options ("(" ++ a ++ ")")
        = .ok ⟨"(" ++ a ++ ")", [.sequence p.elements .plain]⟩
      ∧ compile options ("(" ++ a ++ "|" ++ b ++ ")")
        = .ok ⟨"(" ++ a ++ "|" ++ b ++ ")",
            [.choice [ofBranch p.elements, ofBranch q.elements] .plain]⟩ := by
  obtain ⟨-, filled, ps, written, builds⟩ := compile_eq_ok_iff_written.1 first
  obtain ⟨-, filled', ps', written', builds'⟩ := compile_eq_ok_iff_written.1 second
  refine ⟨?_, ?_, ?_⟩
  · refine compile_eq_ok_iff_written.2
      ⟨rfl, List.append_ne_nil_of_left_ne_nil filled _, ps ++ ps', ?_, builds.append builds'⟩
    have text : (a ++ " " ++ b).toList = a.toList ++ ' ' :: b.toList := by simp
    rw [text]
    exact written.spaced written'
  · refine compile_eq_ok_iff_written.2
      ⟨rfl, List.cons_ne_nil _ _, _, ?_, builds.parenthesized filled⟩
    have text : ("(" ++ a ++ ")").toList = '(' :: (a.toList ++ [')']) := by simp
    rw [text]
    exact written.parenthesized
  · refine compile_eq_ok_iff_written.2
      ⟨rfl, List.cons_ne_nil _ _, _, ?_, builds.either filled builds' filled'⟩
    have text : ("(" ++ a ++ "|" ++ b ++ ")").toList
        = '(' :: (a.toList ++ '|' :: (b.toList ++ [')'])) := by simp
    rw [text]
    exact written.either written'

/-- A repeated tag under a name. -/
def namedTag : Element :=
  .atom (.tag ⟨"a", [], none⟩) ⟨⟨1, Bounds.unbounded⟩, [⟨"n", none, .join none⟩]⟩

theorem compile_namedTag :
    compile ⟨.atSpace, Expression.standard, none⟩ "<a>+@n" = .ok ⟨"<a>+@n", [namedTag]⟩ := by
  have tag : readPiece ⟨.atSpace, Expression.standard, none⟩ '<' "a>+@n".toList
      = .ok (.atom (.tag ⟨"a", [], none⟩), "+@n".toList) := by
    cbv
  exact compile_eq_ok.2 ⟨rfl, List.cons_ne_nil _ _, _,
    .cons rfl tag <| .cons rfl rfl <| .cons rfl rfl <| .nil rfl, .atom .done⟩

/-- Two tags in a row. -/
def tagPair : List Element :=
  [.atom (.tag ⟨"b", [], none⟩) .plain, .atom (.tag ⟨"c", [], none⟩) ⟨⟨0, 1⟩, []⟩]

theorem compile_tagPair :
    compile ⟨.atSpace, Expression.standard, none⟩ "<b> <c>?" = .ok ⟨"<b> <c>?", tagPair⟩ := by
  have first : readPiece ⟨.atSpace, Expression.standard, none⟩ '<' "b> <c>?".toList
      = .ok (.atom (.tag ⟨"b", [], none⟩), " <c>?".toList) := by
    cbv
  have second : readPiece ⟨.atSpace, Expression.standard, none⟩ '<' "c>?".toList
      = .ok (.atom (.tag ⟨"c", [], none⟩), "?".toList) := by
    cbv
  exact compile_eq_ok.2 ⟨rfl, List.cons_ne_nil _ _, _,
    .cons rfl first <| .cons rfl second <| .cons rfl rfl <| .nil rfl, .atom <| .atom .done⟩

theorem compile_namedTag_tagPair :
    compile ⟨.atSpace, Expression.standard, none⟩ "<a>+@n <b> <c>?"
        = .ok ⟨"<a>+@n <b> <c>?", namedTag :: tagPair⟩
      ∧ compile ⟨.atSpace, Expression.standard, none⟩ "(<a>+@n)"
        = .ok ⟨"(<a>+@n)", [.sequence [namedTag] .plain]⟩
      ∧ compile ⟨.atSpace, Expression.standard, none⟩ "(<a>+@n|<b> <c>?)"
        = .ok ⟨"(<a>+@n|<b> <c>?)",
            [.choice [namedTag, .sequence tagPair .plain] .plain]⟩ :=
  compile_composed compile_namedTag compile_tagPair

end

end SpanSearch.Pattern
