import Mathlib
import SpanSearch.Proofs.Expression.Ending
import SpanSearch.Proofs.Expression.Nesting
import SpanSearch.Proofs.Pattern.Words

/-! # Expressions of setters

The text of an expression stands between parentheses in a setter. Its end is found without reading
the expression: parentheses and quotes are counted, and a backslash is a character like any other.
So just those expressions can be written there whose parentheses close one another if each quote ends
at the next one of its kind. All expressions are of this form that have no escaped quotes.
-/

namespace SpanSearch

open Expression

/-- Whether quotes come in pairs in a text, with anything but the same quote between two of them, and
the parentheses outside of them close one another. -/
inductive Enclosed : List Char → Prop
  | nil : Enclosed []
  | ordinary {c : Char} {cs : List Char} (first : Ordinary c) (others : Enclosed cs) :
      Enclosed (c :: cs)
  | quoted {quote : Char} {inner cs : List Char} (isQuote : quote = '\'' ∨ quote = '"')
      (inside : quote ∉ inner) (others : Enclosed cs) : Enclosed (quote :: (inner ++ quote :: cs))
  | group {inner cs : List Char} (inside : Enclosed inner) (others : Enclosed cs) :
      Enclosed ('(' :: (inner ++ ')' :: cs))

namespace Pattern

section

variable {depth : Nat} {c quote : Char} {cs inner w : List Char}

theorem balanced_cons (ordinary : Ordinary c) :
    Balanced depth none (c :: cs) ↔ Balanced depth none cs := by
  obtain ⟨opening, closing, single, double⟩ := ordinary
  simp [Balanced, opening, closing, single, double]

theorem balanced_append (ordinary : ∀ d ∈ w, Ordinary d) :
    Balanced depth none (w ++ cs) ↔ Balanced depth none cs := by
  induction w with
  | nil => exact Iff.rfl
  | cons c w ih =>
    obtain ⟨first, others⟩ := List.forall_mem_cons.1 ordinary
    exact (balanced_cons first).trans (ih others)

theorem balanced_opening : Balanced depth none ('(' :: cs) ↔ Balanced (depth + 1) none cs := by
  simp [Balanced]

theorem balanced_closing :
    Balanced depth none (')' :: cs) ↔ 0 < depth ∧ Balanced (depth - 1) none cs := by
  simp [Balanced]

theorem balanced_quote (isQuote : quote = '\'' ∨ quote = '"') :
    Balanced depth none (quote :: cs) ↔ Balanced depth (some quote) cs := by
  simp [Balanced, isQuote]

theorem balanced_within (inside : quote ∉ inner) :
    Balanced depth (some quote) (inner ++ quote :: cs) ↔ Balanced depth none cs := by
  induction inner with
  | nil => simp [Balanced]
  | cons c inner ih =>
    obtain ⟨first, others⟩ := not_or.1 (List.mem_cons.not.1 inside)
    simpa [Balanced, Ne.symm first] using ih others

/-- A quote that is open is closed by the next one of its kind. -/
theorem exists_quote (balanced : Balanced depth (some quote) cs) :
    ∃ inner rest, cs = inner ++ quote :: rest ∧ quote ∉ inner ∧ Balanced depth none rest := by
  induction cs with
  | nil => exact absurd balanced.2 nofun
  | cons c cs ih =>
    rw [Balanced] at balanced
    by_cases same : c = quote
    · subst same
      exact ⟨[], cs, rfl, List.not_mem_nil, by simpa using balanced⟩
    · obtain ⟨inner, rest, rfl, inside, later⟩ := ih (by simpa [same] using balanced)
      exact ⟨c :: inner, rest, rfl, by simp [Ne.symm same, inside], later⟩

/-- What is enclosed makes no difference to the parentheses around it. -/
theorem balanced_enclosed (enclosed : Enclosed w) :
    Balanced depth none (w ++ cs) ↔ Balanced depth none cs := by
  induction enclosed generalizing depth cs with
  | nil => exact Iff.rfl
  | ordinary first _ ih => exact (balanced_cons first).trans ih
  | quoted isQuote inside _ ih =>
    rw [List.cons_append, List.append_assoc, List.cons_append, balanced_quote isQuote,
      balanced_within inside]
    exact ih
  | group _ _ inner_ih ih =>
    rw [List.cons_append, List.append_assoc, List.cons_append, balanced_opening, inner_ih,
      balanced_closing, Nat.add_sub_cancel]
    exact (and_iff_right (Nat.succ_pos _)).trans ih

/-- Up to the parenthesis that closes the innermost of those that are open, a text is enclosed. -/
theorem exists_enclosed (balanced : Balanced depth none cs) :
    ∃ w rest, Enclosed w ∧ cs = w ++ rest
      ∧ (depth = 0 ∧ rest = []
        ∨ ∃ after, rest = ')' :: after ∧ 0 < depth ∧ Balanced (depth - 1) none after) := by
  -- What follows a quote or a group that is closed is not the tail of the text, but shorter.
  induction length : cs.length using Nat.strongRecOn generalizing cs depth with
  | ind n ih =>
    subst length
    cases cs with
    | nil => exact ⟨[], [], .nil, rfl, .inl ⟨balanced.1, rfl⟩⟩
    | cons c cs =>
      by_cases isQuote : c = '\'' ∨ c = '"'
      · obtain ⟨inner, rest, rfl, inside, later⟩ := exists_quote ((balanced_quote isQuote).1 balanced)
        obtain ⟨w, rest, enclosed, rfl, ends⟩ := ih rest.length
          (by simp only [List.length_cons, List.length_append]; omega) later rfl
        exact ⟨_, rest, .quoted isQuote inside enclosed, by simp, ends⟩
      by_cases opening : c = '('
      · subst opening
        obtain ⟨inner, rest, inside, rfl, ends⟩ :=
          ih cs.length (Nat.lt_succ_self _) (balanced_opening.1 balanced) rfl
        obtain ⟨never, -⟩ | ⟨after, rfl, -, later⟩ := ends
        · cases never
        obtain ⟨w, rest, enclosed, rfl, ends⟩ := ih after.length
          (by simp only [List.length_cons, List.length_append]; omega) later rfl
        exact ⟨_, rest, .group inside enclosed, by simp, ends⟩
      by_cases closing : c = ')'
      · subst closing
        exact ⟨[], ')' :: cs, .nil, rfl, .inr ⟨cs, rfl, balanced_closing.1 balanced⟩⟩
      · have first : Ordinary c := ⟨opening, closing, not_or.1 isQuote⟩
        obtain ⟨w, rest, enclosed, rfl, ends⟩ :=
          ih cs.length (Nat.lt_succ_self _) ((balanced_cons first).1 balanced) rfl
        exact ⟨c :: w, rest, .ordinary first enclosed, rfl, ends⟩

/-- The reader of setters takes just what is enclosed. -/
theorem balanced_iff_enclosed : Balanced 0 none cs ↔ Enclosed cs := by
  constructor
  · intro balanced
    obtain ⟨w, rest, enclosed, rfl, ⟨-, rfl⟩ | ⟨after, -, never, -⟩⟩ := exists_enclosed balanced
    · rwa [List.append_nil]
    · cases never
  · intro enclosed
    rw [← List.append_nil cs, balanced_enclosed enclosed]
    exact ⟨rfl, rfl⟩

/-! ## Expressions without escaped quotes -/

/-- Whether no quoted text among the lexemes of a text has the quote in it that it is written
with. -/
def KeepsQuotes (cs : List Char) (ls : Lexemes) : Prop :=
  ∀ text offset quote, (.literal text, offset) ∈ ls → cs[offset]? = some quote →
    quote ∉ text.toList

theorem takeText_eq {text rest : List Char} (read : Lexeme.takeText quote cs = some (text, rest))
    (ordinary : quote ∉ text) : cs = text ++ quote :: rest := by
  fun_induction Lexeme.takeText quote cs generalizing text with
  | case1 => cases read
  | case2 c isQuote =>
    cases read
    rw [eq_of_beq isQuote]
    rfl
  | case3 => cases read
  | case4 c d cs pair ih =>
    obtain ⟨⟨t, r⟩, -, eq⟩ := Option.map_eq_some_iff.1 read
    obtain ⟨rfl, -⟩ := Prod.mk.inj eq
    exact absurd List.mem_cons_self ordinary
  | case5 c d cs notPair isQuote =>
    cases read
    rw [eq_of_beq isQuote]
    rfl
  | case6 c d cs notPair notQuote ih =>
    obtain ⟨⟨t, r⟩, read', eq⟩ := Option.map_eq_some_iff.1 read
    obtain ⟨rfl, rfl⟩ := Prod.mk.inj eq
    rw [ih read' fun mem => ordinary (List.mem_cons_of_mem c mem)]
    rfl

/-- If quotes are kept, a text closes just the parentheses that its lexemes close. -/
theorem balanced_of_scan {all : List Char} {offset : Nat} {ls : Lexemes}
    (scanned : Lexeme.scan offset cs = .ok ls) (place : all.drop offset = cs)
    (keeps : KeepsQuotes all ls) (nests : Nests depth ls.bare) : Balanced depth none cs := by
  fun_induction Lexeme.scan offset cs generalizing depth ls with
  | case1 =>
    cases scanned
    exact ⟨nests, rfl⟩
  | case2 offset c cs space ih =>
    rw [balanced_cons (ordinary_of_isSpace space)]
    refine ih scanned ?_ keeps nests
    rw [← List.drop_drop, place]
    rfl
  | case3 => cases scanned
  | case4 offset c cs noSpace lexeme after taken ih =>
    cases later : Lexeme.scan (offset + (cs.length + 1 - after.length)) after with
    | error fault => simp [later, Except.map] at scanned
    | ok ls' =>
      obtain rfl : (lexeme, offset) :: ls' = ls := by simpa [later, Except.map] using scanned
      have keeps' : KeepsQuotes all ls' := fun text at_ quote mem =>
        keeps text at_ quote (List.mem_cons_of_mem _ mem)
      have place' {w : List Char} (whole : c :: cs = w ++ after) :
          all.drop (offset + (cs.length + 1 - after.length)) = after := by
        have length : cs.length + 1 - after.length = w.length := by
          have := congrArg List.length whole
          simp only [List.length_cons, List.length_append] at this
          omega
        rw [length, ← List.drop_drop, place, whole, List.drop_left]
      cases Lexeme.taken_of_take taken with
      | opening same =>
        subst same
        exact balanced_opening.2 (ih later (place' (w := ['(']) rfl) keeps' nests)
      | closing same =>
        subst same
        exact balanced_closing.2 ⟨nests.1, ih later (place' (w := [')']) rfl) keeps' nests.2⟩
      | @literal text _ isQuote read =>
        have first : all[offset]? = some c := by rw [← List.head?_drop, place, List.head?_cons]
        have kept := keeps _ _ _ List.mem_cons_self first
        rw [String.toList_ofList] at kept
        obtain rfl := takeText_eq read kept
        rw [balanced_quote isQuote, balanced_within kept]
        exact ih later (place' (w := c :: (text ++ [c])) (by simp)) keeps' nests
      | other whole ordinary notOpening notClosing =>
        rw [whole, balanced_append ordinary]
        exact ih later (place' whole) keeps' ((nests_other notOpening notClosing).1 nests)

end

/-! ## Setters -/

/-- The text of a pattern that sets `x` to the value of an expression. -/
def settingText (source : String) : String := "<a>@(" ++ source ++ "):x"

/-- The pattern that sets `x` to the value of an expression. -/
def setting (e : Expression) : Pattern :=
  ⟨settingText e.source, [.atom (.tag ⟨"a", [], none⟩) ⟨.once, [⟨"x", some e, .join none⟩]⟩]⟩

/-- Whether the pattern that sets `x` to the value of an expression compiles, and its setter has the
expression of just this text. -/
def Settable (tokenizer : Tokenizer) (source : String) : Prop :=
  ∃ p element setter, compile ⟨tokenizer, Expression.standard, none⟩ (settingText source) = .ok p
    ∧ p.elements = [element] ∧ element.setters = [setter]
    ∧ setter.expression.map (·.source) = some source

section

variable {tokenizer : Tokenizer} {source : String} {e : Expression} {body : Term}

theorem toList_settingText (source : String) :
    (settingText source).toList
      = '<' :: (['a', '>'] ++ '@' :: ('(' :: (source.toList ++ [')', ':']) ++ ['x'])) := by
  simp [settingText]

theorem word_tag (options : Options) (limitless : options.knownTypes = none) :
    Word options ['<', 'a', '>'] (.atom (.tag ⟨"a", [], none⟩)) := by
  have allowed : options.allowsType ['a'] = true := by
    rw [Options.allowsType, limitless]
    decide
  have isName : IsName ['a'] := ⟨List.cons_ne_nil _ _, List.all_eq_true.1 (by decide)⟩
  exact .tag (.intro blank_nil isName allowed (by simp [EndsName]; decide) (.close blank_nil))

theorem compile_setting (tokenizer : Tokenizer) (read : Expression.standard source = .ok e)
    (balanced : Balanced 0 none source.toList) :
    compile ⟨tokenizer, Expression.standard, none⟩ (settingText source) = .ok (setting e) := by
  have source_eq := source_of_standard read
  have isName : IsName ['x'] := ⟨List.cons_ne_nil _ _, List.all_eq_true.1 (by decide)⟩
  have writable : Writable (.join none) := trivial
  have setter : Word ⟨tokenizer, Expression.standard, none⟩
      ('@' :: ('(' :: (source.toList ++ [')', ':']) ++ ['x']))
      (.setter ⟨"x", some e, .join none⟩) :=
    .setter (.some balanced (by rwa [String.ofList_toList])) isName writable
  have written := (word_tag _ rfl).written.append setter.written
  have builds : Builds [] [] [.atom (.tag ⟨"a", [], none⟩), .setter ⟨"x", some e, .join none⟩]
      (setting e).elements := .atom .done
  refine compile_eq_ok_iff_written.2 ⟨?_, List.cons_ne_nil _ _, _, ?_, builds⟩
  · rw [setting, source_eq]
  · rw [toList_settingText]
    exact written

/-- The elements that stand before all groups that are open. -/
def outermost : List Frame → List Element → List Element
  | [], elements => elements
  | frame :: frames, _ => outermost frames frame.before

theorem exists_outermost (frames : List Frame) (elements later : List Element) :
    ∃ more, outermost frames (elements ++ later) = outermost frames elements ++ more := by
  cases frames with
  | nil => exact ⟨later, rfl⟩
  | cons frame frames => exact ⟨[], (List.append_nil _).symm⟩

/-- What is built goes on from what stands before all groups that are open. -/
theorem Builds.exists_more {frames : List Frame} {elements out : List Element} {ps : List Piece}
    (h : Builds frames elements ps out) : ∃ more, out = outermost frames elements ++ more := by
  induction h with
  | done => exact ⟨[], (List.append_nil _).symm⟩
  | opening inner ih => exact ih
  | bar filled next ih => exact ih
  | @closing frame frames elements out ps filled outer ih =>
    obtain ⟨more, rfl⟩ := ih
    obtain ⟨more', eq⟩ := exists_outermost frames frame.before
      [ofBranches (frame.branches ++ [elements]) (takeSuffix ps).1]
    exact ⟨more' ++ more, by rw [eq, List.append_assoc]; rfl⟩
  | @atom frames elements out a ps next ih =>
    obtain ⟨more, rfl⟩ := ih
    obtain ⟨more', eq⟩ := exists_outermost frames elements [.atom a (takeSuffix ps).1]
    exact ⟨more' ++ more, by rw [eq, List.append_assoc]⟩

theorem balanced_of_settable (settable : Settable tokenizer source) :
    Balanced 0 none source.toList := by
  -- The pieces of the pattern are read in turn: the tag, then the setter with the expression.
  obtain ⟨p, element, setter, compiled, elements_eq, setters_eq, source_eq⟩ := settable
  obtain ⟨-, -, ps, spells, builds⟩ := compile_eq_ok.1 compiled
  rw [toList_settingText] at spells
  have boundary : Boundary ('@' :: ('(' :: (source.toList ++ [')', ':']) ++ ['x'])) := by
    simp [Boundary]
    decide
  obtain ⟨_, _, starts, -, tag⟩ :=
    (word_tag ⟨tokenizer, Expression.standard, none⟩ rfl).read boundary
  cases starts
  obtain ⟨_, _, others, rfl, tag', spells⟩ := (spells_starts (trimStart_cons (by decide) _)).1 spells
  cases tag.symm.trans tag'
  obtain ⟨_, _, others, rfl, read, -⟩ := (spells_starts (trimStart_cons (by decide) _)).1 spells
  obtain ⟨⟨s, rest⟩, read, eq⟩ := map_eq_ok.1 (readPiece_setter.symm.trans read)
  cases eq
  -- The setter that is read first is the one that the pattern has.
  have same : s = setter := by
    cases builds with
    | atom next =>
      obtain ⟨more, eq⟩ := next.exists_more
      rw [elements_eq] at eq
      cases eq
      exact (List.cons.inj setters_eq).1
  subst same
  obtain ⟨scope, -, inScope, -⟩ := setter_of_read read
  generalize s.expression = expression at inScope source_eq
  cases inScope with
  | none => cases source_eq
  | some balanced read =>
    have text_eq := (source_of_standard read).symm.trans (Option.some.inj source_eq)
    rwa [← text_eq, String.toList_ofList]

/-- Whether the quoted texts of an expression keep their quotes. -/
def Unescaped (source : String) : Prop :=
  ∀ ls, Lexeme.scan 0 source.toList = .ok ls → KeepsQuotes source.toList ls

/-- An expression can be used in a setter just if its text is enclosed, and the pattern is then known
as a whole. The text of an expression is enclosed if no quoted text in it contains its quote. -/
theorem settable_iff_enclosed (tokenizer : Tokenizer) (parsed : Term.parse source = .ok body) :
    (Settable tokenizer source ↔ Enclosed source.toList)
      ∧ (Enclosed source.toList →
        compile ⟨tokenizer, Expression.standard, none⟩ (settingText source)
          = .ok (setting ⟨source, body⟩))
      ∧ (Unescaped source → Enclosed source.toList) := by
  have read : Expression.standard source = .ok ⟨source, body⟩ := by
    rw [Expression.standard, parsed]
  rw [← balanced_iff_enclosed]
  refine ⟨⟨balanced_of_settable, fun balanced => ?_⟩, compile_setting tokenizer read, fun keeps => ?_⟩
  · exact ⟨_, _, _, compile_setting tokenizer read balanced, rfl, rfl, rfl⟩
  · obtain ⟨ls, scanned, nests⟩ := exists_lexemes parsed
    exact balanced_of_scan scanned rfl (keeps ls scanned) nests

/-- Quotes and parentheses in quoted texts. -/
def quotedMarks : String := "@x = ')' or @y = \"(it's\""

theorem settable_quotedMarks :
    Term.parse quotedMarks = .ok (.either (.compare .equal (.attr "x") (.constant (.text ")")))
        (.compare .equal (.attr "y") (.constant (.text "(it's"))))
      ∧ Unescaped quotedMarks
      ∧ Settable .standard quotedMarks := by
  have parsed : Term.parse quotedMarks
      = .ok (.either (.compare .equal (.attr "x") (.constant (.text ")")))
        (.compare .equal (.attr "y") (.constant (.text "(it's")))) := by
    cbv
  have unescaped : Unescaped quotedMarks := by
    have scanned : Lexeme.scan 0 quotedMarks.toList = .ok [(.attr "x", 0), (.comparison .equal, 3),
        (.literal ")", 5), (.word "or", 9), (.attr "y", 12), (.comparison .equal, 15),
        (.literal "(it's", 17)] := by
      cbv
    intro ls scanned'
    cases scanned.symm.trans scanned'
    intro text offset quote mem here
    simp only [List.mem_cons, Prod.mk.injEq, Lexeme.literal.injEq, reduceCtorEq, false_and,
      List.not_mem_nil, or_false, false_or] at mem
    obtain ⟨rfl, rfl⟩ | ⟨rfl, rfl⟩ := mem
    · obtain rfl : '\'' = quote := by simpa [quotedMarks] using here
      decide
    · obtain rfl : '"' = quote := by simpa [quotedMarks] using here
      decide
  obtain ⟨iff, -, enclosed⟩ := settable_iff_enclosed .standard parsed
  exact ⟨parsed, unescaped, iff.2 (enclosed unescaped)⟩

/-- A quoted text of one quote, which is escaped. -/
def escapedQuote : String := "'\\''"

theorem not_settable_escapedQuote :
    Term.parse escapedQuote = .ok (.constant (.text "'")) ∧ ¬ Settable .standard escapedQuote := by
  refine ⟨by cbv, fun settable => ?_⟩
  exact absurd (balanced_of_settable settable) (by simp [escapedQuote, Balanced])

end

end Pattern

end SpanSearch
