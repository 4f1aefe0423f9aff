import Mathlib
import SpanSearch.Proofs.Pattern.Collapse
import SpanSearch.Proofs.Pattern.Legible
import SpanSearch.Proofs.Pattern.Rereading

/-! # Compiling what is printed

The text of a compiled pattern compiles to the same pattern if and only if the pattern is legible:
its tags can be read back, and no branch is a plain sequence of one element.
-/

namespace SpanSearch

namespace Pattern

open Unicode

/-- Whether what is printed for a pattern can be read back. -/
structure Legible (p : Pattern) : Prop where
  tags : ∀ t, Atom.tag t ∈ atomsOf p.elements → t.Legible
  branches : Unwrapped p.elements

/-! ## Structure -/

theorem same_atom_refl (a : Atom) : a.same a = true := by
  cases a <;> simp [Atom.same, Tag.same, Expression.same]

theorem same_suffix_refl (s : Suffix) : s.same s = true := by
  obtain ⟨bounds, setters⟩ := s
  have items : sameItems Setter.same setters setters = true := by
    induction setters with
    | nil => rfl
    | cons setter setters ih => simp [sameItems, ih, Setter.same, Expression.same]
  simp [Suffix.same, items]

mutual

theorem same_refl : (e : Element) → e.same e = true
  | .atom a s => by rw [Element.same, same_atom_refl, same_suffix_refl, Bool.and_self]
  | .sequence children s => by
    rw [Element.same, sameList_refl children, same_suffix_refl, Bool.and_self]
  | .choice branches s => by
    rw [Element.same, sameList_refl branches, same_suffix_refl, Bool.and_self]

theorem sameList_refl : (es : List Element) → Element.sameList es es = true
  | [] => by rw [Element.sameList]
  | e :: es => by rw [Element.sameList, same_refl e, sameList_refl es, Bool.and_self]

end

/-! ## The pieces of what has been read -/

section

variable {P : Piece → Prop} {p : Piece} {ps : List Piece}

/-- Whether a piece has a property and is printed at all. -/
def Shown (P : Piece → Prop) (p : Piece) : Prop := P p ∧ p ≠ .bounds .once

theorem shown_suffix {s : Suffix} (made : MadeSuffix P s) : ∀ p ∈ piecesOfSuffix s, Shown P p := by
  have setters : ∀ p ∈ s.setters.map Piece.setter, Shown P p := by
    intro p mem
    obtain ⟨setter, here, rfl⟩ := List.mem_map.1 mem
    exact ⟨made.setters setter here, nofun⟩
  unfold piecesOfSuffix
  split
  · exact setters
  · next notOnce =>
    refine List.forall_mem_append.2 ⟨?_, setters⟩
    rcases made.bounds with once | bounds
    · exact absurd once notOnce
    · simpa [Shown] using ⟨bounds, notOnce⟩

/-- Whether the pieces that belong to groups have a property. -/
structure Grouping (P : Piece → Prop) : Prop where
  opening : P .opening
  closing : P .closing
  bar : P .bar

theorem shown_group {s : Suffix} (grouping : Grouping P) (made : MadeSuffix P s)
    (inner : ∀ p ∈ ps, Shown P p) :
    ∀ p ∈ Piece.opening :: (ps ++ .closing :: piecesOfSuffix s), Shown P p :=
  List.forall_mem_cons.2 ⟨⟨grouping.opening, nofun⟩, List.forall_mem_append.2 ⟨inner,
    List.forall_mem_cons.2 ⟨⟨grouping.closing, nofun⟩, shown_suffix made⟩⟩⟩

mutual

theorem shown_element (grouping : Grouping P) : (e : Element) → MadeAll P [e] →
    ∀ p ∈ piecesOf e, Shown P p
  | .atom a s, made => by
    obtain ⟨atom, suffix⟩ := madeAll_atom.1 made
    rw [piecesOf]
    exact List.forall_mem_cons.2 ⟨⟨atom, nofun⟩, shown_suffix suffix⟩
  | .sequence children s, made => by
    obtain ⟨⟨-, suffix⟩, inner⟩ := madeAll_sequence.1 made
    rw [piecesOf]
    exact shown_group grouping suffix (shown_row grouping children inner)
  | .choice branches s, made => by
    obtain ⟨⟨-, suffix⟩, inner⟩ := madeAll_choice.1 made
    rw [piecesOf]
    exact shown_group grouping suffix (shown_branches grouping branches inner)

theorem shown_row (grouping : Grouping P) : (es : List Element) → MadeAll P es →
    ∀ p ∈ piecesOfRow es, Shown P p
  | [], _ => by simp [piecesOfRow]
  | e :: es, made => by
    obtain ⟨first, later⟩ := madeAll_cons.1 made
    rw [piecesOfRow]
    exact List.forall_mem_append.2 ⟨shown_element grouping e first, shown_row grouping es later⟩

theorem shown_branches (grouping : Grouping P) : (bs : List Element) → MadeAll P bs →
    ∀ p ∈ piecesOfBranches bs, Shown P p
  | [], _ => by simp [piecesOfBranches]
  | [b], made => by
    rw [piecesOfBranches]
    exact shown_branch grouping b made
  | b :: b' :: bs, made => by
    obtain ⟨first, later⟩ := madeAll_cons.1 made
    rw [piecesOfBranches]
    · exact List.forall_mem_append.2 ⟨shown_branch grouping b first, List.forall_mem_cons.2
        ⟨⟨grouping.bar, nofun⟩, shown_branches grouping (b' :: bs) later⟩⟩
    · simp

theorem shown_branch (grouping : Grouping P) : (b : Element) → MadeAll P [b] →
    ∀ p ∈ piecesOfBranch b, Shown P p
  | .atom a s, made => by
    rw [piecesOfBranch]
    · exact shown_element grouping (.atom a s) made
    · simp
  | .sequence children s, made => by
    obtain ⟨⟨-, suffix⟩, inner⟩ := madeAll_sequence.1 made
    rw [piecesOfBranch]
    split
    · exact shown_row grouping children inner
    · exact shown_group grouping suffix (shown_row grouping children inner)
  | .choice branches s, made => by
    rw [piecesOfBranch]
    · exact shown_element grouping (.choice branches s) made
    · simp

end

end

/-! ## The words of what is printed -/

section

variable {options : Options} {p : Piece} {ps ps' : List Piece} {cs w : List Char}

theorem grouping_read : Grouping (Piece.Read options) :=
  ⟨⟨_, [], [], readPiece_opening⟩, ⟨_, [], [], readPiece_closing⟩, ⟨_, [], [], readPiece_bar⟩⟩

theorem word_printTag {t : Tag} (standard : options.engine = Expression.standard)
    (read : t.Read options) (legible : t.Legible) : Word options (printTag t) (.atom (.tag t)) := by
  rw [printTag_eq]
  exact .tag (tagText_printTag standard read legible)

/-- A piece that is read is a tag, or is printed as a word that writes it. -/
theorem tag_or_word (standard : options.engine = Expression.standard) (h : Word options w p)
    (notOnce : p ≠ .bounds .once) :
    (∃ t, p = .atom (.tag t) ∧ t.Read options) ∨ Word options (printPiece p) p := by
  cases h with
  | opening => exact .inr .opening
  | closing => exact .inr .closing
  | bar => exact .inr .bar
  | @literal raw inside tokens =>
    right
    obtain ⟨inside', same⟩ := @Quoted.inside_escape '\'' (by decide) (Quoted.meaning true '\'' raw)
    have word := Word.literal inside' (by rwa [same])
    rw [same] at word
    simpa [printPiece, printAtom, quoted] using word
  | @regex raw inside nonempty valid =>
    right
    obtain ⟨inside', same⟩ := (inside.quotable (by decide)).inside_escape (by decide)
    have nonempty' : Quoted.escape false '"' (Quoted.meaning false '"' raw) ≠ [] := fun empty => by
      rw [empty] at same
      exact nonempty (meaning_eq_nil.1 same.symm)
    have word := @Word.regex options _ inside' nonempty' (by rwa [same])
    rw [same] at word
    simpa [printPiece, printAtom, quoted] using word
  | tag written => exact .inl ⟨_, rfl, written.read⟩
  | optional => exact .inr (word_printBounds ⟨by decide, by decide, by decide⟩ (by decide))
  | star => exact .inr (word_printBounds ⟨by decide, by decide, by decide⟩ (by decide))
  | plus => exact .inr (word_printBounds ⟨by decide, by decide, by decide⟩ (by decide))
  | braces within writes =>
    refine .inr (word_printBounds (sound_of_bounds writes) ?_)
    rintro rfl
    exact notOnce rfl
  | @setter scope name e policy inScope isName writable =>
    right
    have keeps : options.engine.KeepsText := standard ▸ Expression.keepsText_standard
    have word := Word.setter inScope isName writable
    rw [word.eq_printSetter keeps] at word
    exact word

theorem read_tag_or_word (standard : options.engine = Expression.standard)
    (shown : Shown (Piece.Read options) p) :
    (∃ t, p = .atom (.tag t) ∧ t.Read options) ∨ Word options (printPiece p) p := by
  obtain ⟨⟨c, cs, after, reads⟩, notOnce⟩ := shown
  obtain ⟨w, -, word⟩ := word_of_readPiece reads
  exact tag_or_word standard word notOnce

theorem word_of_legible (standard : options.engine = Expression.standard)
    (shown : Shown (Piece.Read options) p) (legible : ∀ t, p = .atom (.tag t) → t.Legible) :
    Word options (printPiece p) p := by
  rcases read_tag_or_word standard shown with ⟨t, rfl, read⟩ | word
  · exact word_printTag standard read (legible t rfl)
  · exact word

theorem Printed.written (h : Printed cs ps) (words : ∀ p ∈ ps, Word options (printPiece p) p) :
    Written options cs ps := by
  induction h with
  | nil => exact .nil blank_nil
  | cons blank others ih =>
    obtain ⟨word, words⟩ := List.forall_mem_cons.1 words
    exact .cons blank word (ih words)

/-- No word goes on with what is printed for pieces. -/
theorem Printed.boundary (standard : options.engine = Expression.standard) (h : Printed cs ps)
    (shown : ∀ p ∈ ps, Shown (Piece.Read options) p) : Boundary cs := by
  cases h with
  | nil => exact boundary_nil
  | @cons b cs p ps blank others =>
    refine blank.boundary ?_
    rcases read_tag_or_word standard (shown p (by simp)) with ⟨t, rfl, -⟩ | word
    · intro c first
      rw [printPiece, printAtom, printTag_eq] at first
      obtain rfl : '<' = c := by simpa using first
      decide
    · exact word.boundary cs

/-! ## Reading what is printed -/

/-- If the tags that are read ask the same as those that were printed, these are legible. -/
theorem legible_of_spells (standard : options.engine = Expression.standard) (h : Printed cs ps)
    (shown : ∀ p ∈ ps, Shown (Piece.Read options) p) (spells : Spells options cs ps')
    (same : SameAtoms (atomsOfPieces ps') (atomsOfPieces ps)) :
    ∀ t, Piece.atom (.tag t) ∈ ps → t.Legible := by
  induction h generalizing ps' with
  | nil => simp
  | @cons b cs p ps blank others ih =>
    obtain ⟨here, later⟩ := List.forall_mem_cons.1 shown
    have legible : ∀ t, p = .atom (.tag t) → t.Legible := by
      rintro t rfl
      have starts : trimStart (b ++ (printPiece (.atom (.tag t)) ++ cs))
          = '<' :: (t.type.toList ++ (printAttributes t.constraints t.test ++ cs)) := by
        rw [blank.trimStart_append, printPiece, printAtom, printTag_eq, List.cons_append,
          List.append_assoc]
        exact trimStart_cons (by decide) _
      obtain ⟨p', after, others', rfl, reads, -⟩ := (spells_starts starts).1 spells
      rw [readPiece_atom (by decide) (by decide) (by decide) (by decide) (by decide)] at reads
      obtain ⟨⟨a, after'⟩, atom, eq⟩ := map_eq_ok.1 reads
      cases eq
      obtain ⟨⟨t', after''⟩, tag, eq⟩ := map_eq_ok.1 atom
      cases eq
      have read : t.Read options := by
        rcases read_tag_or_word standard here with ⟨t', eq, read⟩ | word
        · cases eq
          exact read
        · cases word with
          | tag written => exact written.read
      have sameTag := (List.forall₂_cons.1 same).1
      simp only [Atom.same, Tag.same, Bool.and_eq_true, beq_iff_eq] at sameTag
      exact legible_of_readTag standard read tag sameTag.1.2
    have word := word_of_legible standard here legible
    obtain ⟨c, rest, whole, noSpace, reads⟩ := word.read (others.boundary standard later)
    have starts : trimStart (b ++ (printPiece p ++ cs)) = c :: rest := by
      rw [blank.trimStart_append, whole, trimStart_cons noSpace]
    obtain ⟨p', after, others', rfl, reads', spells'⟩ := (spells_starts starts).1 spells
    cases reads.symm.trans reads'
    have sameLater : SameAtoms (atomsOfPieces others') (atomsOfPieces ps) := by
      cases p with
      | atom a => exact (List.forall₂_cons.1 same).2
      | _ => exact same
    intro t mem
    rcases List.mem_cons.1 mem with eq | mem
    · exact legible t eq.symm
    · exact ih later spells' sameLater t mem

theorem mem_atomsOfPieces {a : Atom} : a ∈ atomsOfPieces ps ↔ Piece.atom a ∈ ps := by
  unfold atomsOfPieces
  rw [List.mem_filterMap]
  constructor
  · rintro ⟨p, mem, eq⟩
    split at eq
    · cases eq
      exact mem
    · cases eq
  · intro mem
    exact ⟨_, mem, rfl⟩

/-- What is printed for a pattern whose tags can be read back compiles, where branches that are plain
sequences of one element become that element. -/
theorem compile_display {source : String} {p : Pattern}
    (standard : options.engine = Expression.standard) (h : compile options source = .ok p)
    (legible : ∀ t, Atom.tag t ∈ atomsOf p.elements → t.Legible) :
    compile options p.display = .ok ⟨p.display, collapseRow p.elements⟩ := by
  have made := madeAll_of_compile h
  obtain ⟨-, nonempty, -⟩ := compile_eq_ok.1 h
  have shown := shown_row grouping_read p.elements made
  have words : ∀ piece ∈ piecesOfRow p.elements, Word options (printPiece piece) piece := by
    intro piece mem
    refine word_of_legible standard (shown piece mem) ?_
    rintro t rfl
    refine legible t ?_
    rw [← atoms_piecesOfRow]
    exact mem_atomsOfPieces.2 mem
  have builds : Builds [] [] (piecesOfRow p.elements ++ []) (collapseRow p.elements) :=
    builds_row p.elements made (by simp [EndsSuffix]) .done
  rw [List.append_nil] at builds
  refine compile_eq_ok_iff_written.2 ⟨rfl, collapseRow_ne_nil nonempty, _, ?_, builds⟩
  rw [Pattern.display, String.toList_ofList]
  exact (printed_row p.elements).written words

theorem legible_of_compile_display {source : String} {p q : Pattern}
    (standard : options.engine = Expression.standard) (h : compile options source = .ok p)
    (compiled : compile options p.display = .ok q) (same : q.same p = true) : p.Legible := by
  obtain ⟨-, -, ps, spells, builds⟩ := compile_eq_ok.1 compiled
  have tags : ∀ t, Atom.tag t ∈ atomsOf p.elements → t.Legible := by
    intro t mem
    rw [← atoms_piecesOfRow] at mem
    rw [Pattern.display, String.toList_ofList] at spells
    have shown := shown_row grouping_read p.elements (madeAll_of_compile h)
    refine legible_of_spells standard (printed_row p.elements) shown spells ?_ t
      (mem_atomsOfPieces.1 mem)
    have atoms := builds.atoms
    rw [atomsOfFrames, atomsOf_nil, List.nil_append, List.nil_append] at atoms
    rw [← atoms, atoms_piecesOfRow]
    exact sameAtoms_of_sameList _ _ same
  refine ⟨tags, unwrapped_of_same ?_⟩
  cases (compile_display standard h tags).symm.trans compiled
  exact same

/-- The text of a compiled pattern compiles to the same pattern just if the pattern is legible. -/
theorem compile_display_iff_legible {source : String} {p : Pattern}
    (standard : options.engine = Expression.standard) (h : compile options source = .ok p) :
    (∃ q, compile options p.display = .ok q ∧ q.same p = true) ↔ p.Legible := by
  constructor
  · rintro ⟨q, compiled, same⟩
    exact legible_of_compile_display standard h compiled same
  · rintro ⟨tags, branches⟩
    refine ⟨_, compile_display standard h tags, ?_⟩
    rw [Pattern.same, collapseRow_eq p.elements branches]
    exact sameList_refl p.elements

end

/-! ## Examples -/

/-- A choice of two tags, with an attribute set to what matches. -/
def tagOrTags : Pattern :=
  ⟨"(<a x='(b|c)'>|<d>+)@n", [.choice
    [.atom (.tag ⟨"a", [⟨"x", .oneOf ["b", "c"]⟩], none⟩) .plain,
      .atom (.tag ⟨"d", [], none⟩) ⟨⟨1, Bounds.unbounded⟩, []⟩]
    ⟨.once, [⟨"n", none, .join none⟩]⟩]⟩

theorem compile_tagOrTags :
    compile ⟨.atSpace, Expression.standard, none⟩ "(<a x='(b|c)'>|<d>+)@n" = .ok tagOrTags := by
  have first : readPiece ⟨.atSpace, Expression.standard, none⟩ '<' "a x='(b|c)'>|<d>+)@n".toList
      = .ok (.atom (.tag ⟨"a", [⟨"x", .oneOf ["b", "c"]⟩], none⟩), "|<d>+)@n".toList) := by
    cbv
  have second : readPiece ⟨.atSpace, Expression.standard, none⟩ '<' "d>+)@n".toList
      = .ok (.atom (.tag ⟨"d", [], none⟩), "+)@n".toList) := by
    cbv
  exact compile_eq_ok.2 ⟨rfl, List.cons_ne_nil _ _, _,
    .cons rfl rfl <| .cons rfl first <| .cons rfl rfl <| .cons rfl second <| .cons rfl rfl <|
      .cons rfl rfl <| .cons rfl rfl <| .nil rfl,
    .opening <| .atom <| .bar (List.cons_ne_nil _ _) <| .atom <|
      .closing (List.cons_ne_nil _ _) .done⟩

theorem compile_display_tagOrTags :
    ∃ q, compile ⟨.atSpace, Expression.standard, none⟩ tagOrTags.display = .ok q
      ∧ q.same tagOrTags = true := by
  refine (compile_display_iff_legible rfl compile_tagOrTags).2 ⟨?_, ?_⟩
  · intro t mem
    have either : t = ⟨"a", [⟨"x", .oneOf ["b", "c"]⟩], none⟩ ∨ t = ⟨"d", [], none⟩ := by
      simpa [tagOrTags, atomsOf, Element.walkList, Element.walk] using mem
    rcases either with rfl | rfl
    · refine ⟨?_, by simp⟩
      simp only [List.forall_mem_singleton]
      exact ⟨by decide, by simp [printTest, Quoted.Quotable], by simp⟩
    · exact ⟨by simp, by simp⟩
  · simp [tagOrTags, Unwrapped, Element.walkList, Element.walk, IsWrapped]

/-- A tag that asks for a star as the value of an attribute, which is printed as asking for any
value. -/
def starTag : Pattern :=
  ⟨"<a x='(*)'>", [.atom (.tag ⟨"a", [⟨"x", .oneOf ["*"]⟩], none⟩) .plain]⟩

theorem not_compile_display_starTag :
    compile ⟨.atSpace, Expression.standard, none⟩ "<a x='(*)'>" = .ok starTag
      ∧ ¬ ∃ q, compile ⟨.atSpace, Expression.standard, none⟩ starTag.display = .ok q
        ∧ q.same starTag = true := by
  have tag : readPiece ⟨.atSpace, Expression.standard, none⟩ '<' "a x='(*)'>".toList
      = .ok (.atom (.tag ⟨"a", [⟨"x", .oneOf ["*"]⟩], none⟩), []) := by
    cbv
  have compiled : compile ⟨.atSpace, Expression.standard, none⟩ "<a x='(*)'>" = .ok starTag :=
    compile_eq_ok.2 ⟨rfl, List.cons_ne_nil _ _, _, .cons rfl tag <| .nil rfl, .atom .done⟩
  refine ⟨compiled, ?_⟩
  rintro ⟨q, display, same⟩
  have legible := (legible_of_compile_display rfl compiled display same).tags _ (.head _)
  exact (legible.constraints _ (.head _)).plain "*" rfl (.inl rfl)

end Pattern

end SpanSearch
