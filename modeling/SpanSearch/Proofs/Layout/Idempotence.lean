import SpanSearch.Proofs.Layout.Reopened
import SpanSearch.Proofs.Layout.RoundTrip

/-! # Putting a text on one line twice

The layout on one line leaves what it has laid out as it is, if the setters of the pattern are steady.
If they are not, there is a pattern with setters that are kept otherwise which it changes again.
-/

namespace SpanSearch.Layout

open Unicode Pattern

/-- Whether putting a text that compiles on one line twice is the same as doing it once, provided that
it has only setters that are allowed. -/
def Idempotent (options : Options) (allowed : Setter → Prop) : Prop :=
  ∀ source p, compile options source = .ok p → (∀ s ∈ settersOf p.elements, allowed s) →
    normalize (normalize source) = normalize source

section

variable {options : Options} {source : String} {p : Pattern} {s : Setter} {ss : List Setter}
  {w cs : List Char} {allowed : Setter → Prop}

theorem normalize_normalize (standard : options.engine = Expression.standard)
    (h : compile options source = .ok p) (steady : ∀ s ∈ settersOf p.elements, Steady (printSetter s)) :
    normalize (normalize source) = normalize source := by
  obtain ⟨-, -, ps, row, builds⟩ := compile_eq_ok_iff_written.1 h
  rw [← String.toList_inj, toList_normalize, toList_normalize]
  refine oneLine_steady row (fun w p word mem => ?_) none false
  by_cases setter : ∃ s, p = .setter s
  · obtain ⟨s, rfl⟩ := setter
    rw [word_setter standard word]
    exact steady s ((mem_settersOf builds).2 mem)
  · exact steady_word word (not_exists.1 setter)

/-! ## Setters after an atom -/

theorem starts_setters : ∀ c ∈ (ss.flatMap printSetter).head?, isSpace c = false := by
  cases ss with
  | nil => exact fun c first => nomatch first
  | cons s ss =>
    obtain ⟨rest, isAt⟩ := printSetter_at s
    rw [List.flatMap_cons, isAt]
    rintro c ⟨rfl⟩
    decide

/-- Setters that are kept stay as they are on one line. -/
theorem oneLine_setters (kept : ∀ s ∈ ss, Kept (printSetter s)) (last : Option Char) (pending : Bool) :
    oneLine last pending (segments (ss.flatMap printSetter)) = ss.flatMap printSetter := by
  induction ss generalizing last pending with
  | nil =>
    rw [List.flatMap_nil, segments_nil, oneLine]
  | cons s ss ih =>
    obtain ⟨here, later⟩ := List.forall_mem_cons.1 kept
    rw [List.flatMap_cons, here.parted, here.inLine, ih later]

theorem oneLine_first (starts : ∀ c ∈ w.head?, isSpace c = false) (last : Option Char) :
    oneLine last false (segments w) = onLine w := by
  cases w with
  | nil => rw [onLine, segments_nil, oneLine, oneLine]
  | cons c w =>
    obtain ⟨b, first⟩ := exists_separates (starts c rfl)
    obtain ⟨seg, segs, cut, notSpace, -⟩ := first w
    rw [onLine, cut, oneLine_next notSpace, oneLine_next notSpace]

theorem normalize_letterA (starts : ∀ c ∈ w.head?, isSpace c = false) :
    onLine (letterA ++ w) = letterA ++ onLine w := by
  obtain ⟨a, word⟩ := @exists_letterA ⟨.atSpace, Expression.standard, none⟩
  have asIs : (Segment.verbatim letterA).oneLine = letterA := rfl
  rw [onLine, segments_atom word, oneLine_next Segment.noConfusion, asIs, oneLine_first starts]

theorem head_onLine (starts : ∀ c ∈ w.head?, isSpace c = false) :
    ∀ c ∈ (onLine w).head?, isSpace c = false := by
  cases w with
  | nil =>
    rw [onLine, segments_nil, oneLine]
    exact starts
  | cons c w =>
    obtain ⟨rest, same⟩ := head?_onLine (starts c rfl) w
    rw [same]
    exact starts

theorem Idempotent.setters (idempotent : Idempotent options allowed)
    (setters : ∀ s ∈ ss, allowed s ∧ Word options (printSetter s) (.setter s)) :
    onLine (onLine (ss.flatMap printSetter)) = onLine (ss.flatMap printSetter) := by
  obtain ⟨a, word⟩ := @exists_letterA options
  obtain ⟨p, compiled, elements⟩ := compile_atom word fun s mem => (setters s mem).2
  have only : ∀ s ∈ settersOf p.elements, allowed s := by
    intro s mem
    rw [elements, settersOf_atom] at mem
    exact (setters s mem).1
  have same := idempotent _ p compiled only
  rw [← String.toList_inj, toList_normalize, toList_normalize, String.toList_ofList] at same
  change onLine (onLine (letterA ++ ss.flatMap printSetter))
    = onLine (letterA ++ ss.flatMap printSetter) at same
  rw [normalize_letterA starts_setters, normalize_letterA (head_onLine starts_setters)] at same
  exact List.append_cancel_left same

/-- If setters leave something open on one line, those that close it show it. -/
theorem Idempotent.not_hanging (idempotent : Idempotent options allowed)
    (standard : options.engine = Expression.standard)
    (probes : ∀ s, Kept (printSetter s) → allowed s)
    (setters : ∀ s ∈ ss, allowed s ∧ Word options (printSetter s) (.setter s))
    (parted : Parted (ss.flatMap printSetter)) : ¬ Hanging (onLine (ss.flatMap printSetter)) := by
  intro hanging
  obtain ⟨ss', sure, -, shorter⟩ := hanging.exposed standard
  have all : ∀ s ∈ ss ++ ss', allowed s ∧ Word options (printSetter s) (.setter s) :=
    List.forall_mem_append.2 ⟨setters, fun s mem =>
      ⟨probes s (sure s mem).1.kept, (sure s mem).1.word⟩⟩
  have same := idempotent.setters all
  have whole : onLine ((ss ++ ss').flatMap printSetter)
      = onLine (ss.flatMap printSetter) ++ ss'.flatMap printSetter := by
    have kept := @oneLine_setters ss' fun s mem => (sure s mem).1.kept
    rw [onLine, List.flatMap_append, parted]
    cases last : (ss.flatMap printSetter).getLast? with
    | none =>
      rw [List.getLast?_eq_none_iff.1 last, onLine, segments_nil, List.nil_append, kept, oneLine]
      rfl
    | some d =>
      have noSpace := (complete_setters (fun s mem => (setters s mem).2) d last).1
      rw [((parts_segments _).endsIn last noSpace).append, kept]
      rfl
  rw [whole] at same
  have short := length_oneLine_le
    (segments (onLine (ss.flatMap printSetter) ++ ss'.flatMap printSetter)) none false
  have long := congrArg List.length same
  rw [onLine] at long
  simp only [Bool.toNat_false] at short
  omega

/-- A setter is steady if what is laid out on one line stays as it is. -/
theorem Idempotent.steady (idempotent : Idempotent options allowed)
    (standard : options.engine = Expression.standard)
    (probes : ∀ s, Kept (printSetter s) → allowed s) (isAllowed : allowed s)
    (word : Word options (printSetter s) (.setter s)) : Steady (printSetter s) := by
  have alone : ∀ s' ∈ [s], allowed s' ∧ Word options (printSetter s') (.setter s') :=
    List.forall_mem_singleton.2 ⟨isAllowed, word⟩
  have complete := complete_word word
  have filled : printSetter s ≠ [] := by
    obtain ⟨rest, isAt⟩ := printSetter_at s
    simp [isAt]
  have parted : Parted (printSetter s) := by
    refine (parted_or_hanging _ complete).resolve_right fun hanging => ?_
    obtain ⟨ss, sure, braced⟩ := hanging.braced standard
    obtain ⟨parted, reopened⟩ := braced.reopened
    have setters : ∀ s' ∈ s :: ss, allowed s' ∧ Word options (printSetter s') (.setter s') :=
      List.forall_mem_cons.2 ⟨⟨isAllowed, word⟩, fun s' mem =>
        ⟨probes s' (sure s' mem).kept, (sure s' mem).word⟩⟩
    exact idempotent.not_hanging standard probes setters (by rwa [List.flatMap_cons])
      (by rwa [List.flatMap_cons])
  have closed := idempotent.not_hanging standard probes alone (by rwa [List.flatMap_singleton])
  have same := idempotent.setters alone
  rw [List.flatMap_singleton] at closed same
  exact ⟨parted, (parted_or_hanging _ (complete_onLine complete filled)).resolve_right closed, same⟩

/-- Putting texts on one line twice is the same as doing it once, for all that have no setters but
those of a compiled pattern, and others that are kept, just if the setters of that pattern are
steady. -/
theorem idempotent_iff_steady (standard : options.engine = Expression.standard)
    (h : compile options source = .ok p) :
    Idempotent options (fun s => s ∈ settersOf p.elements ∨ Kept (printSetter s))
      ↔ ∀ s ∈ settersOf p.elements, Steady (printSetter s) := by
  constructor
  · intro idempotent s mem
    obtain ⟨-, -, ps, row, builds⟩ := compile_eq_ok_iff_written.1 h
    obtain ⟨w, -, word⟩ := Written.word row ((mem_settersOf builds).1 mem)
    rw [word_setter standard word] at word
    exact idempotent.steady standard (fun s kept => .inr kept) (.inl mem) word
  · intro steady source' p' compiled allowed
    exact normalize_normalize standard compiled fun s mem =>
      (allowed s mem).elim (steady s) Kept.steady

end

/-! ## Examples -/

theorem idempotent_tagWithBrackets :
    compile ⟨.atSpace, Expression.standard, none⟩ "<a> @('(' = @x):n[\\]]" = .ok tagWithBrackets
      ∧ Idempotent ⟨.atSpace, Expression.standard, none⟩
        (fun s => s ∈ settersOf tagWithBrackets.elements ∨ Kept (printSetter s)) := by
  refine ⟨compile_tagWithBrackets, (idempotent_iff_steady rfl compile_tagWithBrackets).2 fun s mem => ?_⟩
  obtain rfl : s = bracketSetter := by simpa [tagWithBrackets] using mem
  exact kept_bracketSetter.steady

/-- Two tags, where the separator of the first has a bracket, and a backslash before white space in
braces. -/
def tagsWithBraces : Pattern :=
  ⟨"<a>@n[\\\\]\x7b\\ \x7d] <a>",
    [.atom (.tag ⟨"a", [], none⟩) ⟨.once, [⟨"n", none, .join (some "\\]\x7b\\ \x7d")⟩]⟩,
      .atom (.tag ⟨"a", [], none⟩) .plain]⟩

theorem not_normalize_tagsWithBraces :
    compile ⟨.atSpace, Expression.standard, none⟩ "<a>@n[\\\\]\x7b\\ \x7d] <a>" = .ok tagsWithBraces
      ∧ normalize (normalize "<a>@n[\\\\]\x7b\\ \x7d] <a>")
        ≠ normalize "<a>@n[\\\\]\x7b\\ \x7d] <a>" := by
  have tag (rest : List Char) : readPiece ⟨.atSpace, Expression.standard, none⟩ '<' ('a' :: '>' :: rest)
      = .ok (.atom (.tag ⟨"a", [], none⟩), rest) := by
    cbv
  have setter : readPiece ⟨.atSpace, Expression.standard, none⟩ '@' "n[\\\\]\x7b\\ \x7d] <a>".toList
      = .ok (.setter ⟨"n", none, .join (some "\\]\x7b\\ \x7d")⟩, " <a>".toList) := by
    cbv
  have once : normalize "<a>@n[\\\\]\x7b\\ \x7d] <a>" = "<a>@n[\\\\]\x7b\\\x7d] <a>" := by
    cbv
  have twice : normalize "<a>@n[\\\\]\x7b\\\x7d] <a>" = "<a>@n[\\\\]\x7b\\\x7d]<a>" := by
    cbv
  refine ⟨compile_eq_ok.2 ⟨rfl, List.cons_ne_nil _ _, _, .cons rfl (tag _) <| .cons rfl setter <|
    .cons rfl (tag _) <| .nil rfl, .atom (.atom .done)⟩, ?_⟩
  rw [once, twice]
  decide

end SpanSearch.Layout
