import SpanSearch.Proofs.Pattern.Setters
import SpanSearch.Proofs.Pattern.Words

/-! # Outlines of patterns

The groups and elements of a pattern as its text writes them. They are told apart from the compiled
elements, as a branch that is a plain group may be written with parentheses of its own or without.
A walk over them, parents before their children, gives the outline of the text: its lines, each at
the depth of the groups around it.
-/

namespace SpanSearch.Layout

open Unicode Pattern

/-- An element as it is written, without the white space around its words. -/
inductive Item where
  /-- An atom with its quantifier and setters. -/
  | leaf (text : List Char)
  /-- A group of branches, with the quantifier and the setters that follow its parentheses. -/
  | group (branches : List (List Item)) (suffix : List Char)

mutual

/-- The lines of an element: one for an atom, and for a group one for each parenthesis, with the
lines of its branches between them, one level deeper. -/
def outlineItem (depth : Nat) : Item → List (Nat × List Char)
  | .leaf text => [(depth, text)]
  | .group branches suffix =>
    (depth, ['(']) :: (outlineBranches (depth + 1) depth branches ++ [(depth, ')' :: suffix)])

/-- The lines of elements in a row. -/
def outlineRow (depth : Nat) : List Item → List (Nat × List Char)
  | [] => []
  | item :: items => outlineItem depth item ++ outlineRow depth items

/-- The lines of branches at one depth, with the bars between them at another. -/
def outlineBranches (depth bars : Nat) : List (List Item) → List (Nat × List Char)
  | [] => []
  | [row] => outlineRow depth row
  | row :: next :: rows =>
    outlineRow depth row ++ (bars, ['|']) :: outlineBranches depth bars (next :: rows)

end

/-- Whether a text writes setters, with white space before each. `text` is what it is without that. -/
inductive SettersText (options : Options) : List Char → List Char → List Setter → Prop
  | nil : SettersText options [] [] []
  | cons {b w cs text : List Char} {s : Setter} {ss : List Setter} (blank : Blank b)
      (word : Word options w (.setter s)) (others : SettersText options cs text ss) :
      SettersText options (b ++ (w ++ cs)) (w ++ text) (s :: ss)

/-- Whether a text writes a quantifier, if there is one, and setters, with white space before each.
`text` is what it is without that. -/
inductive SuffixText (options : Options) : List Char → List Char → Suffix → Prop
  | once {cs text : List Char} {ss : List Setter} (setters : SettersText options cs text ss) :
      SuffixText options cs text ⟨.once, ss⟩
  | bounded {b w cs text : List Char} {bounds : Bounds} {ss : List Setter} (blank : Blank b)
      (word : Word options w (.bounds bounds)) (setters : SettersText options cs text ss) :
      SuffixText options (b ++ (w ++ cs)) (w ++ text) ⟨bounds, ss⟩

/-- Whether a text writes branches with bars between them. Each branch is given by its elements as
they are written, and by what they compile to. -/
inductive Arranged (options : Options) :
    List Char → List (List Item) → List (List Element) → Prop
  | nil {b : List Char} (blank : Blank b) : Arranged options b [[]] [[]]
  | atom {b w cs text rest : List Char} {a : Atom} {s : Suffix} {items : List Item}
      {rows : List (List Item)} {es : List Element} {ess : List (List Element)} (blank : Blank b)
      (word : Word options w (.atom a)) (suffix : SuffixText options cs text s)
      (others : Arranged options rest (items :: rows) (es :: ess)) :
      Arranged options (b ++ (w ++ (cs ++ rest))) ((.leaf (w ++ text) :: items) :: rows)
        ((.atom a s :: es) :: ess)
  | group {b inside cs text rest : List Char} {s : Suffix} {branches : List (List Item)}
      {bs : List (List Element)} {items : List Item} {rows : List (List Item)} {es : List Element}
      {ess : List (List Element)} (blank : Blank b) (inner : Arranged options inside branches bs)
      (suffix : SuffixText options cs text s)
      (others : Arranged options rest (items :: rows) (es :: ess)) :
      Arranged options (b ++ '(' :: (inside ++ ')' :: (cs ++ rest)))
        ((.group branches text :: items) :: rows) ((ofBranches bs s :: es) :: ess)
  | bar {b rest : List Char} {rows : List (List Item)} {ess : List (List Element)}
      (blank : Blank b) (others : Arranged options rest rows ess) :
      Arranged options (b ++ '|' :: rest) ([] :: rows) ([] :: ess)

section

variable {options : Options} {b w cs text rest : List Char} {ps : List Piece}
  {frames : List Frame} {before out : List Element}

theorem Arranged.exists_rows {rows : List (List Item)} {ess : List (List Element)}
    (h : Arranged options cs rows ess) :
    (∃ items more, rows = items :: more) ∧ ∃ es more, ess = es :: more := by
  cases h <;> exact ⟨⟨_, _, rfl⟩, ⟨_, _, rfl⟩⟩

/-! ## Compiled patterns -/

theorem settersText_of_written (h : Written options cs ps) :
    ∃ suffix text rest, cs = suffix ++ rest
      ∧ SettersText options suffix text (takeSetters ps).1
      ∧ Written options rest (takeSetters ps).2 := by
  induction h with
  | @nil b blank => exact ⟨[], [], b, rfl, .nil, .nil blank⟩
  | @cons b w cs p ps blank word others ih =>
    cases p with
    | setter s =>
      obtain ⟨suffix, text, rest, rfl, setters, row⟩ := ih
      exact ⟨b ++ (w ++ suffix), w ++ text, rest, by simp, .cons blank word setters, row⟩
    | _ => exact ⟨[], [], _, rfl, .nil, .cons blank word others⟩

theorem suffixText_of_written (h : Written options cs ps) :
    ∃ suffix text rest, cs = suffix ++ rest
      ∧ SuffixText options suffix text (takeSuffix ps).1
      ∧ Written options rest (takeSuffix ps).2 := by
  have unbounded (same : takeBounds ps = (.once, ps)) :
      ∃ suffix text rest, cs = suffix ++ rest
        ∧ SuffixText options suffix text (takeSuffix ps).1
        ∧ Written options rest (takeSuffix ps).2 := by
    obtain ⟨suffix, text, rest, whole, setters, row⟩ := settersText_of_written h
    rw [takeSuffix, same]
    exact ⟨suffix, text, rest, whole, .once setters, row⟩
  cases h with
  | nil => exact unbounded rfl
  | @cons b w cs p ps blank word others =>
    cases p with
    | bounds bounds =>
      obtain ⟨suffix, text, rest, rfl, setters, row⟩ := settersText_of_written others
      exact ⟨b ++ (w ++ suffix), w ++ text, rest, by simp, .bounded blank word setters, row⟩
    | _ => exact unbounded rfl

/-- Whether a text writes the rest of a pattern, of which `before` has been built in the innermost
of the groups that are open. -/
inductive Remains (options : Options) :
    List Frame → List Element → List Char → List Element → Prop
  | row {cs : List Char} {items : List Item} {before es : List Element}
      (arranged : Arranged options cs [items] [es]) :
      Remains options [] before cs (before ++ es)
  | group {inside cs text rest : List Char} {branches : List (List Item)} {s : Suffix}
      {frame : Frame} {frames : List Frame} {before es out : List Element}
      {ess : List (List Element)} (inner : Arranged options inside branches (es :: ess))
      (suffix : SuffixText options cs text s)
      (outer : Remains options frames
        (frame.before ++ [ofBranches (frame.branches ++ (before ++ es) :: ess) s]) rest out) :
      Remains options (frame :: frames) before (inside ++ ')' :: (cs ++ rest)) out

/-- What remains may start with one more element. -/
theorem Remains.cons {front : List Char} {e : Element}
    (h : Remains options frames (before ++ [e]) rest out)
    (longer : ∀ {cs items more es ess}, Arranged options cs (items :: more) (es :: ess) →
      ∃ item, Arranged options (front ++ cs) ((item :: items) :: more) ((e :: es) :: ess)) :
    Remains options frames before (front ++ rest) out := by
  generalize start : before ++ [e] = elements at h
  cases h with
  | row arranged =>
    subst start
    obtain ⟨item, arranged'⟩ := longer arranged
    rw [List.append_assoc, List.singleton_append]
    exact .row arranged'
  | @group inside cs text rest branches s frame frames _ es out ess inner suffix outer =>
    subst start
    obtain ⟨⟨items, more, rfl⟩, -⟩ := inner.exists_rows
    obtain ⟨item, inner'⟩ := longer inner
    rw [List.append_assoc, List.singleton_append] at outer
    rw [← List.append_assoc]
    exact .group inner' suffix outer

theorem Remains.exists_row (h : Remains options [] before cs out) :
    ∃ items es, Arranged options cs [items] [es] ∧ out = before ++ es := by
  cases h with
  | row arranged => exact ⟨_, _, arranged, rfl⟩

/-- A text that is a row of pieces writes what these build. -/
theorem remains_of_builds (builds : Builds frames before ps out) (h : Written options cs ps) :
    Remains options frames before cs out := by
  induction builds generalizing cs with
  | @done elements =>
    cases h with
    | nil blank =>
      have row := @Remains.row options cs [] elements [] (.nil blank)
      rwa [List.append_nil] at row
  | @opening frames elements out ps inner ih =>
    cases h with
    | @cons b w cs _ _ blank word others =>
      obtain rfl : w = ['('] := by
        cases word
        rfl
      generalize frame : (⟨elements, []⟩ : Frame) :: frames = opened at ih
      cases ih others with
      | row => cases frame
      | @group inside cs' text rest branches s _ _ _ es out ess inner suffix outer =>
        obtain ⟨rfl, rfl⟩ := List.cons.inj frame
        have whole : b ++ (['('] ++ (inside ++ ')' :: (cs' ++ rest)))
            = (b ++ '(' :: (inside ++ ')' :: cs')) ++ rest := by
          simp
        rw [whole]
        refine outer.cons fun arranged => ⟨.group branches text, ?_⟩
        have group := Arranged.group blank inner suffix arranged
        simpa using group
  | @closing frame frames elements out ps filled outer ih =>
    cases h with
    | @cons b w cs _ _ blank word others =>
      obtain rfl : w = [')'] := by
        cases word
        rfl
      obtain ⟨suffix, text, rest, rfl, written, row⟩ := suffixText_of_written others
      have remains := ih row
      rw [← List.append_nil elements] at remains
      have group := Remains.group (.nil blank) written remains
      rwa [← List.singleton_append] at group
  | @bar frame frames elements out ps filled next ih =>
    cases h with
    | @cons b w cs _ _ blank word others =>
      obtain rfl : w = ['|'] := by
        cases word
        rfl
      generalize opened : ({ frame with branches := frame.branches ++ [elements] } : Frame) :: frames
        = groups at ih
      cases ih others with
      | row => cases opened
      | @group inside cs' text rest branches s _ _ _ es out ess inner suffix outer =>
        obtain ⟨rfl, rfl⟩ := List.cons.inj opened
        have whole : b ++ (['|'] ++ (inside ++ ')' :: (cs' ++ rest)))
            = (b ++ '|' :: inside) ++ ')' :: (cs' ++ rest) := by
          simp
        rw [whole]
        refine .group (.bar blank inner) suffix ?_
        simpa using outer
  | @atom frames elements out a ps next ih =>
    cases h with
    | @cons b w cs _ _ blank word others =>
      obtain ⟨suffix, text, rest, rfl, written, row⟩ := suffixText_of_written others
      rw [← List.append_assoc, ← List.append_assoc]
      refine (ih row).cons fun arranged => ⟨.leaf (w ++ text), ?_⟩
      have atom := Arranged.atom blank word written arranged
      simpa using atom

/-- A text that compiles writes the elements of its pattern. -/
theorem arranged_of_compile {source : String} {p : Pattern} (h : compile options source = .ok p) :
    ∃ items, Arranged options source.toList [items] [p.elements] := by
  obtain ⟨-, -, ps, row, builds⟩ := compile_eq_ok_iff_written.1 h
  obtain ⟨items, es, arranged, same⟩ := (remains_of_builds builds row).exists_row
  rw [same]
  exact ⟨items, arranged⟩

end

end SpanSearch.Layout
