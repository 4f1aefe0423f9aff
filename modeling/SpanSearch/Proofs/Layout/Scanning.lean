import SpanSearch.Pattern.Layout
import SpanSearch.Proofs.Pattern.Quantifiers

/-! # How words are scanned for their layout

The scanner of the layouts has its own way to find the end of what stands between delimiters. Of all
words but setters it finds the ends where the reader of patterns does.
-/

namespace SpanSearch.Layout

open Unicode Pattern

/-! ## Text between delimiters -/

/-- Whether a text closes the delimiters that it opens, in the eyes of the scanner, where `depth`
others and `quote` are open before it. -/
def Closes (opening closing : Char) (nested : Bool) : Nat → Option Char → List Char → Prop
  | depth, quote, [] => depth = 0 ∧ quote = none
  | _, _, ['\\'] => False
  | depth, quote, '\\' :: _ :: rest => Closes opening closing nested depth quote rest
  | depth, some q, c :: rest =>
    Closes opening closing nested depth (if c == q then none else some q) rest
  | depth, none, c :: rest =>
    if nested && isQuote c then Closes opening closing nested depth (some c) rest
    else if c == closing then 0 < depth ∧ Closes opening closing nested (depth - 1) none rest
    else if c == opening then Closes opening closing nested (depth + 1) none rest
    else Closes opening closing nested depth none rest

section

variable {opening closing quote c : Char} {nested : Bool} {depth : Nat} {q : Option Char}
  {cs raw text rest : List Char}

theorem split_pair (c : Char) (rest : List Char) :
    splitDelimited opening closing nested depth q ('\\' :: c :: rest)
      = ('\\' :: c :: (splitDelimited opening closing nested depth q rest).1,
          (splitDelimited opening closing nested depth q rest).2) :=
  rfl

theorem split_quoted (plain : c ≠ '\\') (rest : List Char) :
    splitDelimited opening closing nested depth (some quote) (c :: rest)
      = (c :: (splitDelimited opening closing nested depth
            (if c == quote then none else some quote) rest).1,
          (splitDelimited opening closing nested depth
            (if c == quote then none else some quote) rest).2) := by
  rw [splitDelimited]
  · exact fun same => absurd same plain
  · exact fun _ _ same => absurd same plain

theorem split_char (plain : c ≠ '\\') (rest : List Char) :
    splitDelimited opening closing nested depth none (c :: rest)
      = if nested && isQuote c then
          (c :: (splitDelimited opening closing nested depth (some c) rest).1,
            (splitDelimited opening closing nested depth (some c) rest).2)
        else if c == closing then
          match depth with
          | 0 => ([c], rest)
          | depth + 1 =>
            (c :: (splitDelimited opening closing nested depth none rest).1,
              (splitDelimited opening closing nested depth none rest).2)
        else if c == opening then
          (c :: (splitDelimited opening closing nested (depth + 1) none rest).1,
            (splitDelimited opening closing nested (depth + 1) none rest).2)
        else
          (c :: (splitDelimited opening closing nested depth none rest).1,
            (splitDelimited opening closing nested depth none rest).2) := by
  conv => lhs; unfold splitDelimited
  split
  · simp_all
  · simp_all
  · simp_all
  · next eq => cases eq; rfl

theorem ne_backslash (notLast : c = '\\' → cs = [] → False)
    (notPair : ∀ d tail, c = '\\' → cs = d :: tail → False) : c ≠ '\\' := by
  rintro rfl
  cases cs with
  | nil => exact notLast rfl rfl
  | cons d cs => exact notPair d cs rfl rfl

/-- A text that closes what it opens is split off with the closing delimiter after it. -/
theorem Closes.split (h : Closes opening closing nested depth q text)
    (ordinary : closing ≠ '\\') (unquoted : (nested && isQuote closing) = false)
    (rest : List Char) :
    splitDelimited opening closing nested depth q (text ++ closing :: rest)
      = (text ++ [closing], rest) := by
  fun_induction Closes opening closing nested depth q text with
  | case1 depth q =>
    obtain ⟨rfl, rfl⟩ := h
    rw [List.nil_append, split_char ordinary, unquoted]
    simp
  | case2 => cases h
  | case3 depth q c cs ih => rw [List.cons_append, List.cons_append, split_pair, ih h]; rfl
  | case4 depth q c cs notLast notPair ih =>
    rw [List.cons_append, split_quoted (ne_backslash notLast notPair), ih h]
    rfl
  | case5 depth c cs notLast notPair isQuote ih =>
    rw [List.cons_append, split_char (ne_backslash notLast notPair), if_pos isQuote, ih h]
    rfl
  | case6 depth c cs notLast notPair noQuote closes ih =>
    obtain ⟨inside, h⟩ := h
    obtain ⟨depth, rfl⟩ : ∃ d, depth = d + 1 := ⟨depth - 1, by omega⟩
    rw [List.cons_append, split_char (ne_backslash notLast notPair), if_neg noQuote, if_pos closes]
    rw [Nat.add_sub_cancel] at ih h
    simp only [ih h]
    rfl
  | case7 depth c cs notLast notPair noQuote notClosing opens ih =>
    rw [List.cons_append, split_char (ne_backslash notLast notPair), if_neg noQuote,
      if_neg notClosing, if_pos opens, ih h]
    rfl
  | case8 depth c cs notLast notPair noQuote notClosing notOpening ih =>
    rw [List.cons_append, split_char (ne_backslash notLast notPair), if_neg noQuote,
      if_neg notClosing, if_neg notOpening, ih h]
    rfl

/-! ## Texts that close what they open -/

theorem closes_next (plain : c ≠ '\\') :
    Closes opening closing nested depth none (c :: cs)
      = if nested && isQuote c then Closes opening closing nested depth (some c) cs
        else if c == closing then 0 < depth ∧ Closes opening closing nested (depth - 1) none cs
        else if c == opening then Closes opening closing nested (depth + 1) none cs
        else Closes opening closing nested depth none cs := by
  rw [Closes]
  · exact fun same => absurd same plain
  · exact fun _ _ same => absurd same plain

theorem closes_quoted_next (plain : c ≠ '\\') :
    Closes opening closing nested depth (some quote) (c :: cs)
      = Closes opening closing nested depth (if c == quote then none else some quote) cs := by
  rw [Closes]
  · exact fun same => absurd same plain
  · exact fun _ _ same => absurd same plain

theorem closes_char (plain : c ≠ '\\') (noQuote : (nested && isQuote c) = false)
    (notClosing : c ≠ closing) (notOpening : c ≠ opening) :
    Closes opening closing nested depth none (c :: cs)
      ↔ Closes opening closing nested depth none cs := by
  rw [closes_next plain, if_neg (by simp [noQuote]), if_neg (by simpa using notClosing),
    if_neg (by simpa using notOpening)]

theorem closes_quoted_char (plain : c ≠ '\\') (other : c ≠ quote) :
    Closes opening closing nested depth (some quote) (c :: cs)
      ↔ Closes opening closing nested depth (some quote) cs := by
  rw [closes_quoted_next plain, if_neg (by simpa using other)]

theorem closes_pair :
    Closes opening closing nested depth q ('\\' :: c :: cs)
      ↔ Closes opening closing nested depth q cs :=
  Iff.rfl

theorem closes_endQuote (ordinary : quote ≠ '\\') :
    Closes opening closing nested depth (some quote) (quote :: cs)
      ↔ Closes opening closing nested depth none cs := by
  rw [closes_quoted_next ordinary, if_pos (beq_self_eq_true quote)]

theorem closes_startQuote (ordinary : quote ≠ '\\') (isQuote : isQuote quote = true) :
    Closes opening closing true depth none (quote :: cs)
      ↔ Closes opening closing true depth (some quote) cs := by
  rw [closes_next ordinary, if_pos (by simpa using isQuote)]

/-- Whether a character means nothing to the scanner between delimiters. -/
structure Plain (opening closing : Char) (nested : Bool) (c : Char) : Prop where
  plain : c ≠ '\\'
  noQuote : (nested && isQuote c) = false
  notClosing : c ≠ closing
  notOpening : c ≠ opening

theorem closes_append (plain : ∀ c ∈ text, Plain opening closing nested c) :
    Closes opening closing nested depth none (text ++ cs)
      ↔ Closes opening closing nested depth none cs := by
  induction text with
  | nil => rfl
  | cons c text ih =>
    obtain ⟨here, later⟩ := List.forall_mem_cons.1 plain
    rw [List.cons_append, closes_char here.plain here.noQuote here.notClosing here.notOpening]
    exact ih later

theorem closes_of_plain (plain : ∀ c ∈ text, Plain opening closing nested c) :
    Closes opening closing nested 0 none text := by
  rw [← List.append_nil text, closes_append plain]
  exact ⟨rfl, rfl⟩

/-- A text that may stand between quotes closes what it opens where nothing may be nested. -/
theorem closes_of_inside (h : Quoted.Inside quote raw) :
    Closes quote quote false 0 none raw := by
  induction h with
  | nil => exact ⟨rfl, rfl⟩
  | pair others ih => exact closes_pair.2 ih
  | char plain other others ih => exact (closes_char plain rfl other other).2 ih

/-- Where quoted text may be nested, it makes no difference. -/
theorem closes_quoted (h : Quoted.Inside quote raw) (isQuote : isQuote quote = true) :
    Closes opening closing true depth none (quote :: (raw ++ quote :: cs))
      ↔ Closes opening closing true depth none cs := by
  have ordinary : quote ≠ '\\' := by
    rintro rfl
    cases isQuote
  rw [closes_startQuote ordinary isQuote, ← closes_endQuote ordinary]
  induction h with
  | nil => rfl
  | pair others ih =>
    rw [List.cons_append, List.cons_append, closes_pair]
    exact ih
  | char plain other others ih =>
    rw [List.cons_append, closes_quoted_char plain other]
    exact ih

end

/-! ## Tags and quantifiers -/

section

variable {engine : Expression.Engine} {options : Options} {tag tag' : Tag} {c : Char}
  {b name text inner rest : List Char} {bounds : Bounds}

theorem ne_of_class {p : Char → Bool} {marks : List Char} (h : p c = true)
    (others : (marks.all fun d => !p d) = true) : ∀ d ∈ marks, c ≠ d := by
  rintro d listed rfl
  have other := List.all_eq_true.1 others c listed
  rw [h] at other
  cases other

theorem plain_of_class {p : Char → Bool} (h : p c = true)
    (others : (['\\', '\'', '"', '<', '>'].all fun d => !p d) = true) : Plain '<' '>' true c := by
  have other := ne_of_class h others
  refine ⟨other '\\' (by simp), ?_, other '>' (by simp), other '<' (by simp)⟩
  simp [isQuote, other '\'' (by simp), other '"' (by simp)]

theorem closes_blank (blank : Blank b) :
    Closes '<' '>' true 0 none (b ++ rest) ↔ Closes '<' '>' true 0 none rest :=
  closes_append fun c mem => plain_of_class (blank c mem) (by decide)

theorem closes_name (isName : IsName name) :
    Closes '<' '>' true 0 none (name ++ rest) ↔ Closes '<' '>' true 0 none rest :=
  closes_append fun c mem => plain_of_class (isName.chars c mem) (by decide)

theorem closes_attributes (h : Pattern.Attributes engine tag text tag') :
    ∃ body, text = body ++ ['>'] ∧ Closes '<' '>' true 0 none body := by
  induction h with
  | @close tag b blank =>
    refine ⟨b, rfl, ?_⟩
    rw [← List.append_nil b, closes_blank blank]
    exact ⟨rfl, rfl⟩
  | @bare tag tag' b name cs blank isName ends others ih =>
    obtain ⟨body, rfl, closes⟩ := ih
    refine ⟨b ++ (name ++ body), by simp, ?_⟩
    rwa [closes_blank blank, closes_name isName]
  | @valued tag tag' tag'' b name before after raw cs quote blank isName blankBefore blankAfter
      isQuote inside puts others ih =>
    obtain ⟨body, rfl, closes⟩ := ih
    have quoteMark : Layout.isQuote quote = true := by
      rcases isQuote with rfl | rfl <;> rfl
    refine ⟨b ++ (name ++ (before ++ '=' :: (after ++ quote :: (raw ++ quote :: body)))), by simp, ?_⟩
    rwa [closes_blank blank, closes_name isName, closes_blank blankBefore,
      closes_char (by decide) (by decide) (by decide) (by decide), closes_blank blankAfter,
      closes_quoted inside quoteMark]

theorem closes_tagText (h : TagText options text tag) :
    ∃ body, text = body ++ ['>'] ∧ Closes '<' '>' true 0 none body := by
  cases h with
  | @intro _ b type attributes blank isName allowed ends written =>
    obtain ⟨body, rfl, closes⟩ := closes_attributes written
    refine ⟨b ++ (type ++ body), by simp, ?_⟩
    rwa [closes_blank blank, closes_name isName]

/-- Bounds that are read close what they open, as they open nothing. -/
theorem closes_bounds (h : bounds? inner = some bounds) : Closes '{' '}' false 0 none inner := by
  refine closes_of_plain fun c mem => ?_
  have other : ∀ d ∈ ['\\', '{', '}'], c ≠ d := ne_of_class (bounds_chars h c mem) (by decide)
  exact ⟨other '\\' (by simp), rfl, other '}' (by simp), other '{' (by simp)⟩

end

/-! ## Segments -/

section

variable {options : Options} {p : Piece} {c closing : Char} {nested : Bool}
  {w rest text after : List Char}

theorem segments_space (space : isSpace c = true) (rest : List Char) :
    segments (c :: rest) = .space :: segments (trimStart rest) := by
  have notScope : c = '@' → rest.head? ≠ some '(' := by
    rintro rfl
    exact absurd space (by decide)
  rw [segments_cons notScope, if_pos space]

theorem segments_mark (noSpace : isSpace c = false) (notOpening : closing? c = none)
    (notScope : c = '@' → rest.head? ≠ some '(') :
    segments (c :: rest) = .mark c :: segments rest := by
  rw [segments_cons notScope, if_neg (by simp [noSpace]), notOpening]

theorem segments_verbatim (noSpace : isSpace c = false) (opens : closing? c = some (closing, nested))
    (split : splitDelimited c closing nested 0 none rest = (text, after)) :
    segments (c :: rest) = .verbatim (c :: text) :: segments after := by
  have notScope : c = '@' → rest.head? ≠ some '(' := by
    rintro rfl
    cases opens
  rw [segments_cons notScope, if_neg (by simp [noSpace]), opens]
  simp only [split]

/-- Whether a segment is just a text. -/
inductive Is : List Char → Segment → Prop
  | mark (c : Char) : Is [c] (.mark c)
  | verbatim (text : List Char) : Is text (.verbatim text)

/-- A word is one segment, unless it is a setter. -/
theorem segments_word (h : Word options w p) (other : ∀ s, p ≠ .setter s) :
    ∃ seg, Is w seg ∧ ∀ after, segments (w ++ after) = seg :: segments after := by
  have mark {c : Char} (noSpace : isSpace c = false) (notOpening : closing? c = none)
      (notScope : c ≠ '@') :
      ∃ seg, Is [c] seg ∧ ∀ after, segments ([c] ++ after) = seg :: segments after :=
    ⟨_, .mark c, fun after => segments_mark noSpace notOpening fun scope => absurd scope notScope⟩
  have verbatim {c closing : Char} {nested : Bool} {body : List Char} (noSpace : isSpace c = false)
      (opens : closing? c = some (closing, nested)) (closes : Closes c closing nested 0 none body)
      (ordinary : closing ≠ '\\') (unquoted : (nested && isQuote closing) = false) :
      ∃ seg, Is (c :: (body ++ [closing])) seg
        ∧ ∀ after, segments (c :: (body ++ [closing]) ++ after) = seg :: segments after := by
    refine ⟨_, .verbatim _, fun after => ?_⟩
    have split := closes.split ordinary unquoted after
    rw [List.cons_append, List.append_assoc, List.singleton_append]
    exact segments_verbatim noSpace opens split
  cases h with
  | opening => exact mark (by decide) rfl (by decide)
  | closing => exact mark (by decide) rfl (by decide)
  | bar => exact mark (by decide) rfl (by decide)
  | literal inside => exact verbatim (by decide) rfl (closes_of_inside inside) (by decide) rfl
  | regex inside => exact verbatim (by decide) rfl (closes_of_inside inside) (by decide) rfl
  | tag written =>
    obtain ⟨body, rfl, closes⟩ := closes_tagText written
    exact verbatim (by decide) rfl closes (by decide) rfl
  | optional => exact mark (by decide) rfl (by decide)
  | star => exact mark (by decide) rfl (by decide)
  | plus => exact mark (by decide) rfl (by decide)
  | braces within writes => exact verbatim (by decide) rfl (closes_bounds writes) (by decide) rfl
  | setter => exact absurd rfl (other _)

end

end SpanSearch.Layout
