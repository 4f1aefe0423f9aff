import Mathlib.Data.Bool.AllAny
import SpanSearch.Proofs.Layout.Breaks

/-! # Setters that close delimiters

Whatever delimiters a text leaves open, there are setters that the layouts keep and that close them
if they stand after the text, with white space after the last closing delimiter.
-/

namespace SpanSearch.Layout

open Unicode Pattern

/-- A setter with a separator. -/
def separated (separator : List Char) : Setter :=
  ⟨"m", none, .join (some (String.ofList separator))⟩

/-- Whether a setter can be written in a pattern, and the layouts keep it. -/
structure Sure (options : Options) (s : Setter) : Prop where
  word : Word options (printSetter s) (.setter s)
  kept : Kept (printSetter s)

/-- Whether a setter closes a delimiter once, with white space after it. -/
structure Closer (options : Options) (opening closing : Char) (nested : Bool) (s : Setter) : Prop
    extends Sure options s where
  closes : ∃ before after, printSetter s = before ++ closing :: ' ' :: ' ' :: after
    ∧ (∀ c ∈ before, Plain opening closing nested c) ∧ ∀ c ∈ after, Plain opening closing nested c

/-- Whether a text has no line break, and does not end in a colon. -/
structure Level (w : List Char) : Prop where
  noLine : '\n' ∉ w
  noColon : w.getLast? ≠ some ':'

instance (opening closing : Char) (nested : Bool) (c : Char) :
    Decidable (Plain opening closing nested c) :=
  decidable_of_iff (c ≠ '\\' ∧ (nested && isQuote c) = false ∧ c ≠ closing ∧ c ≠ opening)
    ⟨fun ⟨plain, noQuote, notClosing, notOpening⟩ => ⟨plain, noQuote, notClosing, notOpening⟩,
      fun ⟨plain, noQuote, notClosing, notOpening⟩ => ⟨plain, noQuote, notClosing, notOpening⟩⟩

section

variable {options : Options} {opening closing quote : Char} {nested : Bool} {depth : Nat}
  {q : Option Char} {s : Setter} {text rest separator : List Char}

theorem isName_m : IsName "m".toList := ⟨by decide, List.all_eq_true.1 (by decide)⟩

theorem printSetter_separated (others : ∀ c ∈ separator, c ≠ ']') :
    printSetter (separated separator) = '@' :: 'm' :: '[' :: (separator ++ [']']) := by
  simp [printSetter, separated, printPolicy, printSeparator_plain others]

/-- A setter is kept if the scanner finds the end of its separator. -/
theorem sure_of_closes (writable : Writable (.join (some (String.ofList separator))))
    (closes : Closes '[' ']' false 0 none (printSeparator (String.ofList separator))) :
    Sure options (separated separator) := by
  refine ⟨?_, kept_printSetter isName_m ⟨nofun, ?_⟩⟩
  · have word := @Word.setter options _ _ _ _ .none isName_m writable
    rwa [String.ofList_toList] at word
  · rintro _ ⟨rfl⟩
    exact closes

theorem sure_separated (others : ∀ c ∈ separator, ∀ d ∈ ['[', ']', '\\', 'f', 'l', 'm'], c ≠ d) :
    Sure options (separated separator) := by
  have letter {d : Char} (listed : d ∈ ['\\', 'f', 'l', 'm']) : d ∉ separator := fun mem =>
    others d mem d (by simp only [List.mem_cons] at listed ⊢; tauto) rfl
  have differ {d : Char} (listed : d ∈ ['\\', 'f', 'l', 'm']) :
      String.ofList separator ≠ String.ofList [d] := fun same => by
    rw [String.ofList_inj] at same
    exact letter listed (by simp [same])
  refine sure_of_closes ⟨fun last => ?_, differ (by simp), differ (by simp), differ (by simp)⟩ ?_
  · rw [String.toList_ofList] at last
    exact letter (by simp) (List.mem_of_getLast? last)
  · refine closes_separator fun c mem d listed => others c mem d ?_
    simp only [List.mem_cons] at listed ⊢
    tauto

theorem level_separated (others : ∀ c ∈ separator, c ≠ ']' ∧ c ≠ '\n') :
    Level (printSetter (separated separator)) := by
  rw [printSetter_separated fun c mem => (others c mem).1]
  refine ⟨fun mem => ?_, ?_⟩
  · have inside : '\n' ∈ separator := by simpa using mem
    exact (others _ inside).2 rfl
  · rw [← List.cons_append, ← List.cons_append, ← List.cons_append, List.getLast?_concat]
    decide

theorem split_plain (plain : ∀ c ∈ text, Plain opening closing nested c) (rest : List Char) :
    splitDelimited opening closing nested depth none (text ++ rest)
      = (text ++ (splitDelimited opening closing nested depth none rest).1,
          (splitDelimited opening closing nested depth none rest).2) := by
  induction text with
  | nil => rfl
  | cons c text ih =>
    obtain ⟨here, later⟩ := List.forall_mem_cons.1 plain
    rw [List.cons_append, split_char here.plain, here.noQuote, if_neg (by simp),
      if_neg (by simpa using here.notClosing), if_neg (by simpa using here.notOpening), ih later]
    rfl

theorem Delimiters.ordinary (h : Delimiters opening closing nested) :
    closing ≠ '\\' ∧ (nested && isQuote closing) = false
      ∧ Plain opening closing nested ' ' := by
  cases h <;> decide

/-- A setter that closes a delimiter leaves those around it open. -/
theorem Closer.step (h : Closer options opening closing nested s) (delimiters :
    Delimiters opening closing nested) (depth : Nat) (rest : List Char) :
    splitDelimited opening closing nested (depth + 1) none (printSetter s ++ rest)
      = (printSetter s ++ (splitDelimited opening closing nested depth none rest).1,
          (splitDelimited opening closing nested depth none rest).2) := by
  obtain ⟨before, after, eq, plain, plain'⟩ := h.closes
  obtain ⟨ordinary, unquoted, blank⟩ := delimiters.ordinary
  have gap := @split_plain opening closing nested depth (' ' :: ' ' :: after)
    (List.forall_mem_cons.2 ⟨blank, List.forall_mem_cons.2 ⟨blank, plain'⟩⟩) rest
  rw [List.cons_append, List.cons_append] at gap
  rw [eq, List.append_assoc, split_plain plain, List.cons_append, split_char ordinary,
    if_neg (by simp [unquoted]), if_pos (beq_self_eq_true closing)]
  simp only [gap, List.append_assoc, List.cons_append]

theorem Closer.close (h : Closer options opening closing nested s) (delimiters :
    Delimiters opening closing nested) :
    ∃ text after, splitDelimited opening closing nested 0 none (printSetter s)
      = (text, ' ' :: ' ' :: after) := by
  obtain ⟨before, after, eq, plain, -⟩ := h.closes
  obtain ⟨ordinary, unquoted, -⟩ := delimiters.ordinary
  refine ⟨before ++ [closing], after, ?_⟩
  rw [eq, split_plain plain, split_char ordinary, if_neg (by simp [unquoted]),
    if_pos (beq_self_eq_true closing)]

/-- An expression that closes a bracket. -/
def bracketText : Setter := ⟨"m", some ⟨"']  '", .constant (.text "]  ")⟩, .join none⟩

theorem sure_bracketText (standard : options.engine = Expression.standard) :
    Sure options bracketText := by
  have read : options.engine "']  '" = .ok ⟨"']  '", .constant (.text "]  ")⟩ := by
    rw [standard]
    cbv
  refine ⟨?_, kept_printSetter isName_m ⟨?_, ?_⟩⟩
  · exact @Word.setter options _ _ _ _ (.some (by simp [Pattern.Balanced]) read) isName_m trivial
  · rintro e ⟨rfl⟩
    simp [Closes, isQuote]
  · rintro _ ⟨⟩

theorem exists_closer (standard : options.engine = Expression.standard)
    (h : Delimiters opening closing nested) :
    ∃ s, Closer options opening closing nested s ∧ Level (printSetter s) := by
  have separator (others : ∀ c ∈ [closing, ' ', ' '], ∀ d ∈ ['[', ']', '\\', 'f', 'l', 'm'], c ≠ d)
      (noLine : ∀ c ∈ [closing, ' ', ' '], c ≠ '\n')
      (before : ∀ c ∈ ['@', 'm', '['], Plain opening closing nested c)
      (after : Plain opening closing nested ']') :
      ∃ s, Closer options opening closing nested s ∧ Level (printSetter s) := by
    have noBracket : ∀ c ∈ [closing, ' ', ' '], c ≠ ']' := fun c mem => others c mem ']' (by simp)
    refine ⟨separated [closing, ' ', ' '], ⟨sure_separated others, ['@', 'm', '['], [']'], ?_, before,
      List.forall_mem_singleton.2 after⟩, level_separated fun c mem => ⟨noBracket c mem, noLine c mem⟩⟩
    exact printSetter_separated noBracket
  cases h with
  | apostrophe =>
    exact separator (by simp) (by simp) (List.all_iff_forall_prop.1 (by decide)) (by decide)
  | quotes => exact separator (by simp) (by simp) (List.all_iff_forall_prop.1 (by decide)) (by decide)
  | tag => exact separator (by simp) (by simp) (List.all_iff_forall_prop.1 (by decide)) (by decide)
  | braces => exact separator (by simp) (by simp) (List.all_iff_forall_prop.1 (by decide)) (by decide)
  | scope => exact separator (by simp) (by simp) (List.all_iff_forall_prop.1 (by decide)) (by decide)
  | brackets =>
    exact ⟨bracketText, ⟨sure_bracketText standard, ['@', '(', '\''], ['\'', ')', ':', 'm'], rfl,
      List.all_iff_forall_prop.1 (by decide), List.all_iff_forall_prop.1 (by decide)⟩,
      by decide, by decide⟩

/-- A quote that is open is closed by a setter, too. -/
theorem exists_unquote (h : Delimiters opening closing true) (isQuote : isQuote quote = true) :
    ∃ s, (Sure options s ∧ Level (printSetter s))
      ∧ ∀ rest, splitDelimited opening closing true depth (some quote) (printSetter s ++ rest)
      = (printSetter s ++ (splitDelimited opening closing true depth none rest).1,
          (splitDelimited opening closing true depth none rest).2) := by
  have quotes : quote = '\'' ∨ quote = '"' := by simpa [Layout.isQuote] using isQuote
  have other : ∀ d ∈ ['@', 'm', '[', ']', '\\', 'f', 'l'], quote ≠ d := by
    rcases quotes with rfl | rfl <;> simp
  have plain : ∀ c ∈ [']'], Plain opening closing true c :=
    List.forall_mem_singleton.2 (by cases h <;> decide)
  have noBracket : ∀ c ∈ [quote], c ≠ ']' := List.forall_mem_singleton.2 (other ']' (by simp))
  have level : Level (printSetter (separated [quote])) := level_separated <|
    List.forall_mem_singleton.2 ⟨other ']' (by simp), by rcases quotes with rfl | rfl <;> decide⟩
  refine ⟨separated [quote], ⟨sure_separated ?_, level⟩, fun rest => ?_⟩
  · refine List.forall_mem_singleton.2 fun d listed => other d ?_
    simp only [List.mem_cons] at listed ⊢
    tauto
  · have inside {c : Char} (listed : c ∈ ['@', 'm', '[']) : ¬ (c == quote) = true := by
      rw [beq_iff_eq]
      exact fun same => other c (List.mem_append_left [']', '\\', 'f', 'l'] listed) same.symm
    have after := @split_plain opening closing true depth [']'] plain rest
    rw [printSetter_separated noBracket]
    simp only [List.cons_append, List.nil_append] at after ⊢
    rw [split_quoted (by decide), if_neg (inside (by simp)), split_quoted (by decide),
      if_neg (inside (by simp)), split_quoted (by decide), if_neg (inside (by simp)),
      split_quoted (other '\\' (by simp)), if_pos (beq_self_eq_true quote), after]

/-- Whatever is open, there are setters that close all of it but the outermost delimiter. -/
theorem exists_level (standard : options.engine = Expression.standard)
    (h : Delimiters opening closing nested) (quoted : ∀ c ∈ q, nested = true ∧ isQuote c = true)
    (depth : Nat) :
    ∃ ss : List Setter, (∀ s ∈ ss, Sure options s ∧ Level (printSetter s)) ∧ ∀ rest,
      splitDelimited opening closing nested depth q (ss.flatMap printSetter ++ rest)
        = (ss.flatMap printSetter ++ (splitDelimited opening closing nested 0 none rest).1,
            (splitDelimited opening closing nested 0 none rest).2) := by
  obtain ⟨closer, closes, level⟩ := exists_closer standard h
  have unquoted (depth : Nat) :
      ∃ ss : List Setter, (∀ s ∈ ss, Sure options s ∧ Level (printSetter s)) ∧ ∀ rest,
        splitDelimited opening closing nested depth none (ss.flatMap printSetter ++ rest)
          = (ss.flatMap printSetter ++ (splitDelimited opening closing nested 0 none rest).1,
              (splitDelimited opening closing nested 0 none rest).2) := by
    induction depth with
    | zero => exact ⟨[], List.forall_mem_nil _, fun rest => rfl⟩
    | succ depth ih =>
      obtain ⟨ss, sure, split⟩ := ih
      refine ⟨closer :: ss, List.forall_mem_cons.2 ⟨⟨closes.toSure, level⟩, sure⟩, fun rest => ?_⟩
      rw [List.flatMap_cons, List.append_assoc, closes.step h, split, List.append_assoc]
  cases q with
  | none => exact unquoted depth
  | some quote =>
    obtain ⟨rfl, isQuote⟩ := quoted quote rfl
    obtain ⟨s, sure', unquote⟩ := @exists_unquote options opening closing quote depth h isQuote
    obtain ⟨ss, sure, split⟩ := unquoted depth
    refine ⟨s :: ss, List.forall_mem_cons.2 ⟨sure', sure⟩, fun rest => ?_⟩
    rw [List.flatMap_cons, List.append_assoc, unquote, split, List.append_assoc]

/-- Whatever is open, there are setters that close it, with white space after it. -/
theorem exists_probe (standard : options.engine = Expression.standard)
    (h : Delimiters opening closing nested) (quoted : ∀ c ∈ q, nested = true ∧ isQuote c = true)
    (depth : Nat) :
    ∃ ss : List Setter, (∀ s ∈ ss, Sure options s ∧ Level (printSetter s)) ∧ ∃ text after,
      splitDelimited opening closing nested depth q (ss.flatMap printSetter)
        = (text, ' ' :: ' ' :: after) := by
  obtain ⟨closer, closes, level⟩ := exists_closer standard h
  obtain ⟨text, after, close⟩ := closes.close h
  obtain ⟨ss, sure, split⟩ := exists_level standard h quoted depth
  refine ⟨ss ++ [closer], List.forall_mem_append.2 ⟨sure, List.forall_mem_singleton.2
    ⟨closes.toSure, level⟩⟩, ss.flatMap printSetter ++ text, after, ?_⟩
  rw [List.flatMap_append, List.flatMap_singleton, split, close]

/-- If a text leaves a delimiter open, there are setters after which the layouts take white space away
that belongs to them. -/
theorem Hanging.exposed {w : List Char} (h : Hanging w)
    (standard : options.engine = Expression.standard) :
    ∃ ss : List Setter, (∀ s ∈ ss, Sure options s ∧ Level (printSetter s))
      ∧ .space ∈ segments (w ++ ss.flatMap printSetter)
      ∧ room (segments (w ++ ss.flatMap printSetter)) < (w ++ ss.flatMap printSetter).length := by
  obtain @⟨opening, closing, nested, segs, v, depth, quote, delimiters, quoted, fits, parted⟩ := h
  obtain ⟨ss, sure, text, after, split⟩ := exists_probe standard delimiters quoted depth
  have whole := (@splitDelimited_parts opening closing nested depth quote quoted
    (ss.flatMap printSetter)).1
  rw [split] at whole
  have space : isSpace ' ' = true := by decide
  refine ⟨ss, sure, ?_, ?_⟩
  · rw [parted, split, segments_space space]
    simp
  · have total := congrArg List.length whole
    have rest := (parts_segments (trimStart (' ' :: after))).room_le
    have shorter := length_trimStart after
    rw [trimStart, List.dropWhile_cons_of_pos space] at rest
    rw [parted, split, segments_space space, room_append, room_cons, room_cons, trimStart,
      List.dropWhile_cons_of_pos space]
    simp only [Segment.room, trimStart, List.length_append, List.length_cons] at *
    omega

end

end SpanSearch.Layout
