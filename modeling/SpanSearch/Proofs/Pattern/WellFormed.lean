import SpanSearch.Proofs.Pattern.Pieces
import SpanSearch.Proofs.Search.Exactness

/-! # Well-formed elements

Whatever is true of all pieces that a text reads as is true of the atoms, bounds and setters of the
elements that they make up, on every level. Besides, no sequence is without children, and a choice
has two branches at least.
-/

namespace SpanSearch.Pattern

/-- Whether a suffix is made of pieces with a property. -/
structure MadeSuffix (P : Piece → Prop) (s : Suffix) : Prop where
  bounds : s.bounds = .once ∨ P (.bounds s.bounds)
  setters : ∀ setter ∈ s.setters, P (.setter setter)

/-- Whether an element, leaving its parts aside, is made of pieces with a property. -/
def Made (P : Piece → Prop) : Element → Prop
  | .atom a s => P (.atom a) ∧ MadeSuffix P s
  | .sequence children s => children ≠ [] ∧ MadeSuffix P s
  | .choice branches s => 2 ≤ branches.length ∧ MadeSuffix P s

/-- Whether elements are made of pieces with a property on every level. -/
def MadeAll (P : Piece → Prop) (es : List Element) : Prop := ∀ e ∈ Element.walkList es, Made P e

section

variable {P Q : Piece → Prop} {es es' : List Element} {e : Element} {ps : List Piece} {s : Suffix}

theorem walkList_append (es es' : List Element) :
    Element.walkList (es ++ es') = Element.walkList es ++ Element.walkList es' := by
  induction es with
  | nil => rfl
  | cons e es ih => simp only [List.cons_append, Element.walkList, ih, List.append_assoc]

theorem madeAll_nil : MadeAll P [] := fun _ mem => nomatch mem

theorem madeAll_append : MadeAll P (es ++ es') ↔ MadeAll P es ∧ MadeAll P es' := by
  simp only [MadeAll, walkList_append, List.forall_mem_append]

theorem madeAll_cons : MadeAll P (e :: es) ↔ MadeAll P [e] ∧ MadeAll P es :=
  @madeAll_append P [e] es

theorem madeAll_atom {a : Atom} : MadeAll P [.atom a s] ↔ P (.atom a) ∧ MadeSuffix P s := by
  simp [MadeAll, Element.walkList, Element.walk, Made]

theorem madeAll_sequence {children : List Element} :
    MadeAll P [.sequence children s] ↔ (children ≠ [] ∧ MadeSuffix P s) ∧ MadeAll P children := by
  simp [MadeAll, Element.walkList, Element.walk, Made]

theorem madeAll_choice {branches : List Element} :
    MadeAll P [.choice branches s]
      ↔ (2 ≤ branches.length ∧ MadeSuffix P s) ∧ MadeAll P branches := by
  simp [MadeAll, Element.walkList, Element.walk, Made]

theorem madeAll_iff_forall : MadeAll P es ↔ ∀ e ∈ es, MadeAll P [e] := by
  induction es with
  | nil => simp [madeAll_nil]
  | cons e es ih => rw [madeAll_cons, ih, List.forall_mem_cons]

theorem MadeSuffix.plain : MadeSuffix P .plain := ⟨.inl rfl, by simp [Suffix.plain]⟩

/-- A suffix that is taken from pieces is made of these, and so is what follows it. -/
theorem made_takeSetters (pieces : ∀ p ∈ ps, P p) :
    (∀ setter ∈ (takeSetters ps).1, P (.setter setter)) ∧ ∀ p ∈ (takeSetters ps).2, P p := by
  induction ps using takeSetters.induct with
  | case1 s ps ih =>
    obtain ⟨here, later⟩ := List.forall_mem_cons.1 pieces
    rw [takeSetters, List.forall_mem_cons]
    exact ⟨⟨here, (ih later).1⟩, (ih later).2⟩
  | case2 ps other =>
    rw [takeSetters.eq_2 ps other]
    exact ⟨by simp, pieces⟩

theorem made_takeSuffix (pieces : ∀ p ∈ ps, P p) :
    MadeSuffix P (takeSuffix ps).1 ∧ ∀ p ∈ (takeSuffix ps).2, P p := by
  cases ps with
  | nil => exact ⟨.plain, pieces⟩
  | cons p ps =>
    cases p with
    | bounds b =>
      obtain ⟨here, later⟩ := List.forall_mem_cons.1 pieces
      exact ⟨⟨.inr here, (made_takeSetters later).1⟩, (made_takeSetters later).2⟩
    | _ => exact ⟨⟨.inl rfl, (made_takeSetters pieces).1⟩, (made_takeSetters pieces).2⟩

theorem madeAll_ofBranch (nonempty : es ≠ []) (made : MadeAll P es) : MadeAll P [ofBranch es] := by
  unfold ofBranch
  split
  · exact made
  · exact madeAll_sequence.2 ⟨⟨nonempty, .plain⟩, made⟩

theorem madeAll_ofBranches {branches : List (List Element)} (some : branches ≠ [])
    (made : ∀ branch ∈ branches, branch ≠ [] ∧ MadeAll P branch) (suffix : MadeSuffix P s) :
    MadeAll P [ofBranches branches s] := by
  unfold ofBranches
  split
  · next branch =>
    obtain ⟨nonempty, made⟩ := made branch (by simp)
    exact madeAll_sequence.2 ⟨⟨nonempty, suffix⟩, made⟩
  · next several =>
    refine madeAll_choice.2 ⟨⟨?_, suffix⟩, madeAll_iff_forall.2 fun e mem => ?_⟩
    · rw [List.length_map]
      match branches, some, several with
      | [branch], _, several => exact absurd rfl (several branch)
      | _ :: _ :: _, _, _ => simp
    · obtain ⟨branch, mem', rfl⟩ := List.mem_map.1 mem
      exact madeAll_ofBranch (made branch mem').1 (made branch mem').2

/-- What pieces build is made of them. -/
theorem Builds.madeAll {frames : List Frame} {elements out : List Element}
    (h : Builds frames elements ps out) (pieces : ∀ p ∈ ps, P p) (here : MadeAll P elements)
    (around : ∀ frame ∈ frames, MadeAll P frame.before
      ∧ ∀ branch ∈ frame.branches, branch ≠ [] ∧ MadeAll P branch) : MadeAll P out := by
  induction h with
  | done => exact here
  | opening inner ih =>
    obtain ⟨-, later⟩ := List.forall_mem_cons.1 pieces
    exact ih later madeAll_nil (List.forall_mem_cons.2 ⟨⟨here, by simp⟩, around⟩)
  | @closing frame frames elements out ps filled outer ih =>
    obtain ⟨-, later⟩ := List.forall_mem_cons.1 pieces
    obtain ⟨suffix, later⟩ := made_takeSuffix later
    obtain ⟨⟨before, branches⟩, around⟩ := List.forall_mem_cons.1 around
    refine ih later (madeAll_append.2 ⟨before, ?_⟩) around
    refine madeAll_ofBranches (by simp) ?_ suffix
    exact List.forall_mem_append.2 ⟨branches, by simpa using ⟨filled, here⟩⟩
  | @bar frame frames elements out ps filled next ih =>
    obtain ⟨-, later⟩ := List.forall_mem_cons.1 pieces
    obtain ⟨⟨before, branches⟩, around⟩ := List.forall_mem_cons.1 around
    refine ih later madeAll_nil (List.forall_mem_cons.2 ⟨⟨before, ?_⟩, around⟩)
    exact List.forall_mem_append.2 ⟨branches, by simpa using ⟨filled, here⟩⟩
  | atom next ih =>
    obtain ⟨atom, later⟩ := List.forall_mem_cons.1 pieces
    obtain ⟨suffix, later⟩ := made_takeSuffix later
    exact ih later (madeAll_append.2 ⟨here, madeAll_atom.2 ⟨atom, suffix⟩⟩) around

end

section

variable {options : Options}

/-- Whether a piece is read from some text. -/
def Piece.Read (options : Options) (p : Piece) : Prop :=
  ∃ c cs after, readPiece options c cs = .ok (p, after)

theorem Spells.read {cs : List Char} {ps : List Piece} (h : Spells options cs ps) :
    ∀ p ∈ ps, p.Read options := by
  induction h with
  | nil => simp
  | cons _ reads _ ih => exact List.forall_mem_cons.2 ⟨⟨_, _, _, reads⟩, ih⟩

/-- A compiled pattern is made of pieces that are read from some text. -/
theorem madeAll_of_compile {source : String} {p : Pattern}
    (h : compile options source = .ok p) : MadeAll (Piece.Read options) p.elements := by
  obtain ⟨-, -, ps, spells, builds⟩ := compile_eq_ok.1 h
  exact builds.madeAll spells.read madeAll_nil (by simp)

theorem Piece.Read.atom {a : Atom} (h : Piece.Read options (.atom a)) :
    ∃ c cs after, readAtom options c cs = .ok (a, after) := by
  obtain ⟨c, cs, after, reads⟩ := h
  obtain ⟨opening, closing, bar, setter, mark⟩ := readPiece_kind reads
  rw [readPiece_atom opening closing bar setter mark] at reads
  obtain ⟨_, atom, eq⟩ := map_eq_ok.1 reads
  cases eq
  exact ⟨c, cs, _, atom⟩

/-- No literal that is read is without tokens. -/
theorem solid_of_readAtom {c : Char} {cs after : List Char} {a : Atom}
    (h : readAtom options c cs = .ok (a, after)) : Search.Atom.Solid a := by
  cases a with
  | regex | tag => trivial
  | literal text tokens =>
    unfold readAtom at h
    split at h
    · unfold readLiteral at h
      split at h
      · cases h
      · dsimp only at h
        split at h
        · cases h
        · next filled =>
          cases h
          simpa [Search.Atom.Solid] using filled
    · split at h
      · unfold readRegex at h
        grind
      · split at h
        · obtain ⟨_, -, eq⟩ := map_eq_ok.1 h
          cases eq
        · cases h

/-- No literal of a compiled pattern is without tokens. -/
theorem solidAll_of_compile {source : String} {p : Pattern}
    (h : compile options source = .ok p) : Search.SolidAll p.elements := fun e mem => by
  have made := madeAll_of_compile h e mem
  cases e with
  | atom a s =>
    obtain ⟨c, cs, after, read⟩ := made.1.atom
    exact solid_of_readAtom read
  | sequence | choice => trivial

end

end SpanSearch.Pattern
