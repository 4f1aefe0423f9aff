import SpanSearch.Proofs.Expression.Ending
import SpanSearch.Proofs.Layout.Rows
import SpanSearch.Proofs.Pattern.Printed
import SpanSearch.Proofs.Pattern.Rereading

/-! # Setters in layouts

The layouts keep a setter if their scanner finds the end of its expression and of its separator where
the reader of patterns does. So it is with all setters without brackets and backslashes.
-/

namespace SpanSearch.Layout

open Unicode Pattern

/-- Whether the layout over several lines appends segments to a line of which `last` is the last
character. What it appends is their text without the white space between them, which stands before
suffixes alone. -/
inductive Joined : Option Char → List Char → List Segment → Prop
  | nil {last : Option Char} : Joined last [] []
  | space {last : Option Char} {cs : List Char} {segs : List Segment}
      (suffix : segs.head?.any Segment.isSuffix = true) (others : Joined last cs segs) :
      Joined last cs (.space :: segs)
  | mark {last : Option Char} {c : Char} {cs : List Char} {segs : List Segment} (opening : c ≠ '(')
      (closing : c ≠ ')') (bar : c ≠ '|') (others : Joined (some c) cs segs) :
      Joined last (c :: cs) (.mark c :: segs)
  | verbatim {last : Option Char} {w cs : List Char} {segs : List Segment} (nonempty : w ≠ [])
      (starts : startsElement w = true → last = some ':') (others : Joined w.getLast? cs segs) :
      Joined last (w ++ cs) (.verbatim w :: segs)

/-- Whether a text is cut into segments that both layouts just append to what is before it, of which
`last` is the last character. -/
inductive Glued : Option Char → List Char → List Segment → Prop
  | nil {last : Option Char} : Glued last [] []
  | mark {last : Option Char} {c : Char} {cs : List Char} {segs : List Segment} (opening : c ≠ '(')
      (closing : c ≠ ')') (bar : c ≠ '|') (others : Glued (some c) cs segs) :
      Glued last (c :: cs) (.mark c :: segs)
  | verbatim {last : Option Char} {w cs : List Char} {segs : List Segment} (nonempty : w ≠ [])
      (asIs : (Segment.verbatim w).oneLine = w)
      (starts : startsElement w = true → last = some ':') (others : Glued w.getLast? cs segs) :
      Glued last (w ++ cs) (.verbatim w :: segs)

section

variable {c : Char} {w cs name text after line : List Char} {seg : Segment}
  {segs segs' : List Segment} {last : Option Char}

theorem Glued.append (h : Glued last w segs) (h' : Glued (w.getLast?.or last) cs segs') :
    Glued last (w ++ cs) (segs ++ segs') := by
  induction h with
  | nil => exact h'
  | @mark last c w segs opening closing bar others ih =>
    refine .mark opening closing bar (ih ?_)
    rwa [← List.singleton_append, List.getLast?_append, Option.or_assoc] at h'
  | @verbatim last v w segs nonempty asIs starts others ih =>
    rw [List.append_assoc]
    refine .verbatim nonempty asIs starts (ih ?_)
    obtain ⟨d, eq⟩ : ∃ d, v.getLast? = some d :=
      Option.isSome_iff_exists.1 (by simpa using nonempty)
    rwa [List.getLast?_append, Option.or_assoc, eq, Option.some_or, ← eq] at h'

theorem oneLine_next (notSpace : seg ≠ .space) (last : Option Char) (rest : List Segment) :
    oneLine last false (seg :: rest) = seg.oneLine ++ oneLine seg.oneLine.getLast? false rest := by
  rw [oneLine_cons notSpace]
  rfl

theorem Glued.inLine (h : Glued last w segs) (rest : List Segment) :
    oneLine last false (segs ++ rest) = w ++ oneLine (w.getLast?.or last) false rest := by
  induction h with
  | nil => rfl
  | @mark last c w segs opening closing bar others ih =>
    have afterMark : (c :: w).getLast?.or last = w.getLast?.or (some c) := by
      rw [← List.singleton_append, List.getLast?_append, Option.or_assoc]
      rfl
    have first := @oneLine_next (.mark c) nofun last (segs ++ rest)
    rw [List.cons_append, first, afterMark]
    exact congrArg (c :: ·) ih
  | @verbatim last v w segs nonempty asIs starts others ih =>
    obtain ⟨d, eq⟩ : ∃ d, v.getLast? = some d :=
      Option.isSome_iff_exists.1 (by simpa using nonempty)
    have first := @oneLine_next (.verbatim v) nofun last (segs ++ rest)
    rw [List.cons_append, first, asIs, ih, List.getLast?_append, Option.or_assoc, eq,
      Option.some_or, List.append_assoc]

theorem Joined.inLines (h : Joined last w segs) (depth : Nat) (same : line.getLast? = last)
    (rest : List Segment) :
    lines depth line (segs ++ rest) = lines depth (line ++ w) rest := by
  induction h generalizing line with
  | nil => rw [List.nil_append, List.append_nil]
  | @space last cs segs suffix others ih =>
    have next : (segs ++ rest).head?.any Segment.isSuffix = true := by
      cases segs with
      | nil => cases suffix
      | cons seg segs => exact suffix
    rw [List.cons_append, lines_space_suffix next, ih same]
  | mark opening closing bar others ih =>
    rw [List.cons_append, lines_mark opening closing bar, ih (by simp), List.append_assoc]
    rfl
  | @verbatim last v w segs nonempty starts others ih =>
    obtain ⟨d, eq⟩ : ∃ d, v.getLast? = some d :=
      Option.isSome_iff_exists.1 (by simpa using nonempty)
    have appended : (line ++ v).getLast? = v.getLast? := by
      rw [List.getLast?_append, eq, Option.some_or]
    rw [List.cons_append, lines_verbatim fun here => same.trans (starts here), ih appended,
      List.append_assoc]

theorem Glued.joined (h : Glued last w segs) : Joined last w segs := by
  induction h with
  | nil => exact .nil
  | mark opening closing bar others ih => exact .mark opening closing bar ih
  | verbatim nonempty asIs starts others ih => exact .verbatim nonempty starts ih

/-- What belongs to the element before it never starts an element. -/
theorem startsElement_suffix (suffix : (Segment.verbatim w).isSuffix = true) :
    startsElement w = false := by
  cases w with
  | nil => rfl
  | cons c w =>
    simp only [Segment.isSuffix, List.head?_cons, Bool.or_eq_true, beq_iff_eq, Option.some.injEq]
      at suffix
    obtain (rfl | rfl) | scope := suffix
    · rfl
    · rfl
    · obtain ⟨rest, eq⟩ := List.isPrefixOf_iff_prefix.1 scope
      obtain rfl : '@' = c := (List.cons.inj eq).1
      rfl

theorem Joined.behind (h : Joined last w (seg :: segs)) (suffix : seg.isSuffix = true)
    (last' : Option Char) : Joined last' w (seg :: segs) := by
  cases h with
  | space => cases suffix
  | mark opening closing bar others => exact .mark opening closing bar others
  | verbatim nonempty starts others =>
    refine .verbatim nonempty (fun starts => ?_) others
    rw [startsElement_suffix suffix] at starts
    cases starts

theorem Glued.behind (h : Glued last w (seg :: segs)) (suffix : seg.isSuffix = true)
    (last' : Option Char) : Glued last' w (seg :: segs) := by
  cases h with
  | mark opening closing bar others => exact .mark opening closing bar others
  | verbatim nonempty asIs starts others =>
    refine .verbatim nonempty asIs (fun starts => ?_) others
    rw [startsElement_suffix suffix] at starts
    cases starts

/-- No white space is written before what belongs to the element before it. -/
theorem oneLine_suffix (notSpace : seg ≠ .space) (suffix : seg.isSuffix = true) (last : Option Char)
    (pending : Bool) (rest : List Segment) :
    oneLine last pending (seg :: rest) = oneLine last false (seg :: rest) := by
  have never : (separates · seg) = fun _ => false := by
    funext c
    simp [separates, suffix]
  rw [oneLine_cons notSpace, oneLine_next notSpace, never]
  simp

theorem kept_of_glued (nonempty : w ≠ []) (glued : Glued none w (seg :: segs))
    (suffix : seg.isSuffix = true)
    (parted : ∀ after, segments (w ++ after) = seg :: segs ++ segments after) : Kept w := by
  have whole : segments w = seg :: segs := by
    have alone := parted []
    rwa [List.append_nil, segments_nil, List.append_nil] at alone
  have notSpace : seg ≠ .space := by
    rintro rfl
    cases suffix
  refine ⟨fun after => ?_, fun last pending rest => ?_, fun depth line rest => ?_⟩
  · rw [parted, whole]
  · obtain ⟨d, eq⟩ : ∃ d, w.getLast? = some d :=
      Option.isSome_iff_exists.1 (by simpa using nonempty)
    rw [whole, List.cons_append, oneLine_suffix notSpace suffix, ← List.cons_append,
      (glued.behind suffix last).inLine, eq, Option.some_or]
  · rw [whole, (glued.behind suffix line.getLast?).joined.inLines depth rfl]

/-! ## The parts of setters -/

theorem segments_name (chars : ∀ c ∈ name, isNameChar c = true) (after : List Char) :
    segments (name ++ after) = name.map .mark ++ segments after := by
  induction name with
  | nil => rfl
  | cons c name ih =>
    obtain ⟨here, later⟩ := List.forall_mem_cons.1 chars
    have notOpening : closing? c = none := by
      have other : ∀ d ∈ ['<', '[', '{'], c ≠ d := ne_of_class here (by decide)
      simp [closing?, isQuote_of_isNameChar here, other '<' (by simp), other '[' (by simp),
        other '{' (by simp)]
    rw [List.cons_append, segments_mark (isSpace_of_isNameChar here) notOpening, ih later]
    · rfl
    · rintro rfl
      exact absurd here (by decide)

theorem glued_name (chars : ∀ c ∈ name, isNameChar c = true) (last : Option Char) :
    Glued last name (name.map .mark) := by
  induction name generalizing last with
  | nil => exact .nil
  | cons c name ih =>
    obtain ⟨here, later⟩ := List.forall_mem_cons.1 chars
    have other : ∀ d ∈ ['(', ')', '|'], c ≠ d := ne_of_class here (by decide)
    exact .mark (other '(' (by simp)) (other ')' (by simp)) (other '|' (by simp)) (ih later (some c))

/-- Whether the scanner finds the ends of the expression and of the separator of a setter. -/
structure Closed (s : Setter) : Prop where
  expression : ∀ e ∈ s.expression, Closes '(' ')' true 0 none e.source.toList
  separator : ∀ separator, s.policy = .join (some separator) →
    Closes '[' ']' false 0 none (printSeparator separator)

theorem word_setter {options : Options} {s : Setter} (standard : options.engine = Expression.standard)
    (word : Word options w (.setter s)) : w = printSetter s :=
  word.eq_printSetter (standard ▸ Expression.keepsText_standard)

theorem policy_segments {policy : Policy} (closes : ∀ separator, policy = .join (some separator) →
      Closes '[' ']' false 0 none (printSeparator separator)) :
    ∃ segs, (∀ last, Glued last (printPolicy policy) segs)
      ∧ ∀ after, segments (printPolicy policy ++ after) = segs ++ segments after := by
  have bracket {text : List Char} (closes : Closes '[' ']' false 0 none text) :
      ∃ segs, (∀ last, Glued last ('[' :: (text ++ [']'])) segs)
        ∧ ∀ after, segments ('[' :: (text ++ [']']) ++ after) = segs ++ segments after := by
    refine ⟨[.verbatim ('[' :: (text ++ [']']))], fun last => ?_, fun after => ?_⟩
    · have asIs : (Segment.verbatim ('[' :: (text ++ [']']))).oneLine = '[' :: (text ++ [']']) :=
        oneLine_verbatim (by simp) (by simp)
      have row := @Glued.verbatim last _ _ _ (List.cons_ne_nil _ _) asIs
        (fun starts => nomatch starts) .nil
      rwa [List.append_nil] at row
    · rw [List.cons_append, List.append_assoc, List.singleton_append]
      exact segments_verbatim (by decide) rfl (closes.split (by decide) rfl after)
  have letter {c : Char} (plain : Plain '[' ']' false c) : Closes '[' ']' false 0 none [c] :=
    closes_of_plain (by simpa using plain)
  cases policy with
  | first => exact bracket (letter ⟨by decide, rfl, by decide, by decide⟩)
  | last => exact bracket (letter ⟨by decide, rfl, by decide, by decide⟩)
  | longest => exact bracket (letter ⟨by decide, rfl, by decide, by decide⟩)
  | join separator =>
    cases separator with
    | none => exact ⟨[], fun last => .nil, fun after => rfl⟩
    | some separator => exact bracket (closes separator rfl)

/-- The layouts keep a setter of which the scanner finds the ends. -/
theorem kept_printSetter {s : Setter} (isName : IsName s.name.toList) (closed : Closed s) :
    Kept (printSetter s) := by
  obtain ⟨policySegs, gluedPolicy, segmentsPolicy⟩ := policy_segments closed.separator
  have glued (last : Option Char) := (glued_name isName.chars last).append (gluedPolicy _)
  have target (after : List Char) : segments (s.name.toList ++ printPolicy s.policy ++ after)
      = s.name.toList.map .mark ++ policySegs ++ segments after := by
    rw [List.append_assoc, segments_name isName.chars, segmentsPolicy, List.append_assoc]
  unfold printSetter
  dsimp only
  cases source : s.expression with
  | none =>
    refine kept_of_glued (List.cons_ne_nil _ _)
      (.mark (by decide) (by decide) (by decide) (glued (some '@'))) rfl fun after => ?_
    obtain ⟨c, name, eq⟩ := List.exists_cons_of_ne_nil isName.nonempty
    have notScope : (s.name.toList ++ printPolicy s.policy ++ after).head? ≠ some '(' := by
      rw [eq]
      have other := @ne_of_class c isNameChar ['('] (isName.chars c (by simp [eq])) (by decide)
      simpa using other
    rw [List.cons_append, segments_mark (by decide) rfl fun _ => notScope, target]
    rfl
  | some e =>
    have whole : "@(".toList ++ e.source.toList ++ "):".toList
          ++ (s.name.toList ++ printPolicy s.policy)
        = ('@' :: '(' :: (e.source.toList ++ [')']))
          ++ ([':'] ++ (s.name.toList ++ printPolicy s.policy)) := by
      simp
    have split (after : List Char) : splitDelimited '(' ')' true 0 none
        (e.source.toList ++ ')' :: after) = (e.source.toList ++ [')'], after) :=
      (closed.expression e source).split (by decide) rfl after
    change Kept ("@(".toList ++ e.source.toList ++ "):".toList
      ++ (s.name.toList ++ printPolicy s.policy))
    rw [whole]
    refine kept_of_glued (by simp) (.verbatim (List.cons_ne_nil _ _)
      (oneLine_verbatim (by simp) (by simp)) (fun starts => nomatch starts)
      (.mark (by decide) (by decide) (by decide) (glued (some ':')))) rfl fun after => ?_
    have name : segments (':' :: (s.name.toList ++ printPolicy s.policy ++ after))
        = .mark ':' :: (s.name.toList.map .mark ++ policySegs ++ segments after) := by
      rw [segments_mark (by decide) rfl fun scope => absurd scope (by decide), target]
    have parted := segments_scope
      (split (':' :: (s.name.toList ++ printPolicy s.policy ++ after)))
    rw [name] at parted
    simpa using parted

/-- The reader of expressions knows no backslashes, but apart from them it agrees with the scanner. -/
theorem closes_of_balanced {depth : Nat} {quote : Option Char} (h : Balanced depth quote text)
    (others : ∀ c ∈ text, c ≠ '\\') : Closes '(' ')' true depth quote text := by
  fun_induction Balanced depth quote text with
  | case1 depth quote => exact h
  | case2 depth q c rest ih =>
    obtain ⟨here, later⟩ := List.forall_mem_cons.1 others
    rw [closes_quoted_next here]
    exact ih h later
  | case3 depth c rest isQuote ih =>
    obtain ⟨here, later⟩ := List.forall_mem_cons.1 others
    rw [closes_next here, if_pos (by simpa [Layout.isQuote] using isQuote)]
    exact ih h later
  | case4 depth c rest noQuote opens ih =>
    obtain ⟨here, later⟩ := List.forall_mem_cons.1 others
    obtain rfl := eq_of_beq opens
    exact ih h later
  | case5 depth c rest noQuote notOpening closes ih =>
    obtain ⟨here, later⟩ := List.forall_mem_cons.1 others
    obtain rfl := eq_of_beq closes
    exact ⟨h.1, ih h.2 later⟩
  | case6 depth c rest noQuote notOpening notClosing ih =>
    obtain ⟨here, later⟩ := List.forall_mem_cons.1 others
    rw [closes_next here, if_neg (by simpa [Layout.isQuote] using noQuote),
      if_neg notClosing, if_neg notOpening]
    exact ih h later

theorem printSeparator_plain (others : ∀ c ∈ text, c ≠ ']') :
    printSeparator (String.ofList text) = text := by
  rw [printSeparator, String.toList_ofList]
  induction text with
  | nil => rfl
  | cons c text ih =>
    obtain ⟨here, later⟩ := List.forall_mem_cons.1 others
    simpa [here] using ih later

theorem closes_separator (others : ∀ c ∈ text, ∀ d ∈ ['[', ']', '\\'], c ≠ d) :
    Closes '[' ']' false 0 none (printSeparator (String.ofList text)) := by
  rw [printSeparator_plain fun c mem => others c mem ']' (by simp)]
  refine closes_of_plain fun c mem => ?_
  have other := others c mem
  exact ⟨other '\\' (by simp), rfl, other ']' (by simp), other '[' (by simp)⟩

/-- The layouts keep a setter without backslashes, and without brackets in its separator. -/
theorem kept_of_plain {options : Options} {s : Setter}
    (standard : options.engine = Expression.standard) (word : Word options w (.setter s))
    (expression : ∀ e ∈ s.expression, ∀ c ∈ e.source.toList, c ≠ '\\')
    (separator : ∀ separator, s.policy = .join (some separator) →
      ∀ c ∈ separator.toList, ∀ d ∈ ['[', ']', '\\'], c ≠ d) : Kept w := by
  rw [word_setter standard word]
  cases word with
  | @setter scope name e policy inScope isName writable =>
    have isName' : IsName (String.ofList name).toList := by rwa [String.toList_ofList]
    refine kept_printSetter isName' ⟨?_, fun text joins => ?_⟩
    · rintro e' ⟨rfl⟩
      cases inScope with
      | @some text e balanced read =>
        rw [standard] at read
        have others := expression e' rfl
        have source := Expression.source_of_standard read
        rw [source, String.toList_ofList] at others ⊢
        exact closes_of_balanced balanced others
    · have closes := closes_separator (separator text joins)
      rwa [String.ofList_toList] at closes

end

end SpanSearch.Layout
