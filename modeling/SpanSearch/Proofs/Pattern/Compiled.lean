import SpanSearch.Literals
import SpanSearch.Proofs.Pattern.RoundTrip
import SpanSearch.Proofs.Search.Counts
import SpanSearch.Proofs.Search.Sources

/-! # What compiles

A compiled pattern is well formed on every level. The search and the spans of regular expressions
rely on that without looking. Limiting the types of tags refuses just the patterns that have tags of
other types, and changes nothing about the others.
-/

namespace SpanSearch

open Unicode

/-- Whether a tag may have a type: this starts with a letter or a low line and, if types are
limited, is one of the known ones. -/
structure Pattern.AllowedType (options : Options) (type : String) : Prop where
  starts : ∃ c rest, type.toList = c :: rest ∧ (isAlphabetic c = true ∨ c = '_')
  known : ∀ types ∈ options.knownTypes, type ∈ types

/-- Whether an atom can be searched for: a literal has tokens, and a regular expression is not empty
and can be compiled in the form in which its spans are looked for. -/
def Atom.WellFormed (options : Pattern.Options) : Atom → Prop
  | .literal _ tokens => tokens ≠ []
  | .regex source => source ≠ "" ∧ (Regex.whole? source).isSome = true
  | .tag t => Pattern.AllowedType options t.type

/-- Whether an element, leaving its parts aside, has what it needs to occur. -/
def Element.Filled (options : Pattern.Options) : Element → Prop
  | .atom a _ => a.WellFormed options
  | .sequence children _ => children ≠ []
  | .choice branches _ => 2 ≤ branches.length

/-- Whether an element, leaving its parts aside, is well formed. -/
structure Element.WellFormed (options : Pattern.Options) (e : Element) : Prop where
  bounds : e.bounds.Sound
  filled : e.Filled options

namespace Pattern

section

variable {options : Options} {source : String} {p : Pattern} {e : Element} {a : Atom}

theorem allowedType_of_allowsType {type : List Char} (h : options.allowsType type = true) :
    AllowedType options (String.ofList type) := by
  simp only [Options.allowsType, Bool.and_eq_true] at h
  obtain ⟨starts, known⟩ := h
  refine ⟨?_, fun types mem => ?_⟩
  · cases type with
    | nil => cases starts
    | cons c rest => exact ⟨c, rest, String.toList_ofList, by simpa using starts⟩
  · rw [mem, Option.all_some] at known
    exact List.contains_iff_mem.1 known

/-- An atom that is read can be searched for. -/
theorem Piece.Read.wellFormed (h : Piece.Read options (.atom a)) : a.WellFormed options := by
  obtain ⟨c, cs, after, reads⟩ := h
  obtain ⟨w, -, word⟩ := word_of_readPiece reads
  cases word with
  | literal inside tokens => simpa [Atom.WellFormed] using tokens
  | @regex raw inside nonempty valid =>
    refine ⟨?_, by rwa [Regex.whole?, String.toList_ofList]⟩
    rwa [Ne, String.ofList_eq_empty_iff, meaning_eq_nil]
  | @tag text tag written =>
    have allowed := allowedType_of_allowsType written.read.allowed
    rwa [String.ofList_toList] at allowed

theorem MadeSuffix.sound {s : Suffix} (h : MadeSuffix (Piece.Read options) s) : s.bounds.Sound := by
  rcases h.bounds with once | read
  · rw [once]
    exact sound_once
  · exact read.sound

theorem Made.wellFormed (h : Made (Piece.Read options) e) : e.WellFormed options := by
  cases e with
  | atom a s => exact ⟨h.2.sound, h.1.wellFormed⟩
  | sequence children s => exact ⟨h.2.sound, h.1⟩
  | choice branches s => exact ⟨h.2.sound, h.1⟩

/-- A compiled pattern has elements, and these are well formed on every level. -/
theorem wellFormed_of_compile (h : compile options source = .ok p) :
    p.elements ≠ [] ∧ ∀ e ∈ Element.walkList p.elements, e.WellFormed options :=
  ⟨(compile_eq_ok.1 h).2.1, fun e mem => (madeAll_of_compile h e mem).wellFormed⟩

/-- A choice of a row and a regular expression. -/
def rowOrRegex : Pattern :=
  ⟨"('b c' <a>{2,3}|\"d\")*", [.choice
    [.sequence [.atom (.literal "b c" ["b", "c"]) .plain, .atom (.tag ⟨"a", [], none⟩) ⟨⟨2, 3⟩, []⟩]
      .plain,
      .atom (.regex "d") .plain]
    ⟨⟨0, Bounds.unbounded⟩, []⟩]⟩

theorem compile_rowOrRegex :
    compile ⟨.atSpace, Expression.standard, some ["a"]⟩ "('b c' <a>{2,3}|\"d\")*"
      = .ok rowOrRegex := by
  have literal : readPiece ⟨.atSpace, Expression.standard, some ["a"]⟩ '\''
      "b c' <a>{2,3}|\"d\")*".toList
        = .ok (.atom (.literal "b c" ["b", "c"]), " <a>{2,3}|\"d\")*".toList) := by
    cbv
  have tag : readPiece ⟨.atSpace, Expression.standard, some ["a"]⟩ '<' "a>{2,3}|\"d\")*".toList
      = .ok (.atom (.tag ⟨"a", [], none⟩), "{2,3}|\"d\")*".toList) := by
    cbv
  exact compile_eq_ok.2 ⟨rfl, List.cons_ne_nil _ _, _,
    .cons rfl rfl <| .cons rfl literal <| .cons rfl tag <| .cons rfl rfl <| .cons rfl rfl <|
      .cons rfl rfl <| .cons rfl rfl <| .cons rfl rfl <| .nil rfl,
    .opening <| .atom <| .atom <| .bar (List.cons_ne_nil _ _) <| .atom <|
      .closing (List.cons_ne_nil _ _) .done⟩

theorem wellFormed_rowOrRegex :
    compile ⟨.atSpace, Expression.standard, some ["a"]⟩ "('b c' <a>{2,3}|\"d\")*" = .ok rowOrRegex
      ∧ rowOrRegex.elements ≠ []
      ∧ ∀ e ∈ Element.walkList rowOrRegex.elements,
        e.WellFormed ⟨.atSpace, Expression.standard, some ["a"]⟩ :=
  ⟨compile_rowOrRegex, wellFormed_of_compile compile_rowOrRegex⟩

end

/-! ## Known types -/

section

variable {tokenizer : Tokenizer} {engine : Expression.Engine} {known : List String}
  {source : String} {p : Pattern} {cs w text : List Char} {piece : Piece} {ps : List Piece}
  {tag : Tag}

theorem allowsType_some {type : List Char} :
    Options.allowsType ⟨tokenizer, engine, some known⟩ type = true
      ↔ Options.allowsType ⟨tokenizer, engine, none⟩ type = true ∧ String.ofList type ∈ known := by
  simp [Options.allowsType]

/-- The type of a tag is the name that it starts with. -/
theorem tagText_known :
    TagText ⟨tokenizer, engine, some known⟩ text tag
      ↔ TagText ⟨tokenizer, engine, none⟩ text tag ∧ tag.type ∈ known := by
  constructor
  · rintro ⟨blank, isName, allowed, ends, written⟩
    obtain ⟨allowed, mem⟩ := allowsType_some.1 allowed
    exact ⟨.intro blank isName allowed ends written, written.adds.1 ▸ mem⟩
  · rintro ⟨⟨blank, isName, allowed, ends, written⟩, mem⟩
    have mem := written.adds.1 ▸ mem
    exact .intro blank isName (allowsType_some.2 ⟨allowed, mem⟩) ends written

/-- Whether a piece is no tag, or one of a known type. -/
def Piece.Known (known : List String) (piece : Piece) : Prop :=
  ∀ tag, piece = .atom (.tag tag) → tag.type ∈ known

/-- Which types are known matters to tags alone. -/
theorem Word.withTypes {types types' : Option (List String)}
    (h : Word ⟨tokenizer, engine, types⟩ w piece)
    (tags : ∀ text tag, piece = .atom (.tag tag) → TagText ⟨tokenizer, engine, types⟩ text tag →
      TagText ⟨tokenizer, engine, types'⟩ text tag) :
    Word ⟨tokenizer, engine, types'⟩ w piece := by
  cases h with
  | tag written => exact .tag (tags _ _ rfl written)
  | setter inScope isName writable => exact .setter inScope isName writable
  | _ => constructor <;> assumption

theorem word_known :
    Word ⟨tokenizer, engine, some known⟩ w piece
      ↔ Word ⟨tokenizer, engine, none⟩ w piece ∧ piece.Known known := by
  constructor
  · intro h
    refine ⟨h.withTypes fun text tag _ written => (tagText_known.1 written).1, ?_⟩
    rintro tag rfl
    cases h with
    | tag written => exact (tagText_known.1 written).2
  · rintro ⟨h, isKnown⟩
    exact h.withTypes fun text tag same written => tagText_known.2 ⟨written, isKnown tag same⟩

theorem written_known :
    Written ⟨tokenizer, engine, some known⟩ cs ps
      ↔ Written ⟨tokenizer, engine, none⟩ cs ps ∧ ∀ piece ∈ ps, piece.Known known := by
  constructor
  · intro h
    induction h with
    | nil blank => exact ⟨.nil blank, by simp⟩
    | cons blank word others ih =>
      obtain ⟨word, isKnown⟩ := word_known.1 word
      exact ⟨.cons blank word ih.1, List.forall_mem_cons.2 ⟨isKnown, ih.2⟩⟩
  · rintro ⟨h, isKnown⟩
    induction h with
    | nil blank => exact .nil blank
    | cons blank word others ih =>
      obtain ⟨first, later⟩ := List.forall_mem_cons.1 isKnown
      exact .cons blank (word_known.2 ⟨word, first⟩) (ih later)

theorem mem_atomsOf {a : Atom} {es : List Element} :
    a ∈ atomsOf es ↔ ∃ s, .atom a s ∈ Element.walkList es := by
  rw [atomsOf, List.mem_filterMap]
  constructor
  · rintro ⟨e, mem, eq⟩
    split at eq
    · next a' s => exact ⟨s, Option.some.inj eq ▸ mem⟩
    · cases eq
  · rintro ⟨s, mem⟩
    exact ⟨_, mem, rfl⟩

/-- The tags of a compiled pattern are those among its pieces. -/
theorem known_iff_types (builds : Builds [] [] ps p.elements) :
    (∀ piece ∈ ps, piece.Known known) ↔ ∀ type ∈ p.types, type ∈ known := by
  have atoms : atomsOf p.elements = atomsOfPieces ps := builds.atoms
  have tags (tag : Tag) :
      .atom (.tag tag) ∈ ps ↔ ∃ s, .atom (.tag tag) s ∈ Element.walkList p.elements := by
    rw [← mem_atomsOfPieces, ← atoms, mem_atomsOf]
  constructor
  · intro isKnown type mem
    obtain ⟨tag, s, used, rfl⟩ := Search.mem_types_iff.1 mem
    exact isKnown _ ((tags tag).2 ⟨s, used⟩) tag rfl
  · rintro types _ mem tag rfl
    obtain ⟨s, mem⟩ := (tags tag).1 mem
    exact types _ (Search.mem_types_iff.2 ⟨tag, s, mem, rfl⟩)

/-- Where types are limited, just the patterns compile that compile otherwise and have tags of known
types alone, and they compile to the same. -/
theorem compile_known_iff :
    compile ⟨tokenizer, engine, some known⟩ source = .ok p
      ↔ compile ⟨tokenizer, engine, none⟩ source = .ok p ∧ ∀ type ∈ p.types, type ∈ known := by
  simp only [compile_eq_ok_iff_written, written_known]
  constructor
  · rintro ⟨same, nonempty, ps, ⟨written, isKnown⟩, builds⟩
    exact ⟨⟨same, nonempty, ps, written, builds⟩, (known_iff_types builds).1 isKnown⟩
  · rintro ⟨⟨same, nonempty, ps, written, builds⟩, types⟩
    exact ⟨same, nonempty, ps, ⟨written, (known_iff_types builds).2 types⟩, builds⟩

end

end Pattern

end SpanSearch
