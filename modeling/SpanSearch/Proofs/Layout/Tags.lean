import SpanSearch.Pattern.Layout
import SpanSearch.Proofs.Pattern.Tags

/-! # Tags on one line

White space in a tag stays where it keeps a name apart from what is before it. So a tag on one line
is read as the tag that was written.
-/

namespace SpanSearch.Layout

open Unicode Pattern

/-- Whether white space that is due after a character is written. -/
def Open (last : Option Char) : Prop := last ≠ some '<' ∧ last ≠ some '='

/-- The white space that is written before a character. -/
def due (last : Option Char) (pending : Bool) (c : Char) : List Char :=
  if pending && last != some '<' && last != some '=' && c != '>' && c != '=' then [' '] else []

section

variable {engine : Expression.Engine} {options : Options} {tag tag' : Tag}
  {last last' : Option Char} {pending : Bool} {c quote : Char} {cs b name raw text : List Char}

theorem blank_due : Blank (due last pending c) := by
  unfold due
  split <;> simp [Blank, isSpace]

theorem due_none : due last false c = [] := rfl

theorem due_close : due last pending '>' = [] := by simp [due]

theorem due_equals : due last pending '=' = [] := by simp [due]

theorem due_after_equals : due (some '=') pending c = [] := by simp [due]

theorem due_after_bracket : due (some '<') pending c = [] := by simp [due]

theorem due_of_open (h : Open last) (h' : Open last') (pending : Bool) (c : Char) :
    due last pending c = due last' pending c := by
  simp [due, h.1, h.2, h'.1, h'.2]

theorem open_none : Open none := ⟨nofun, nofun⟩

theorem open_of_isNameChar (h : isNameChar c = true) : Open (some c) := by
  constructor
  · intro same
    cases same
    exact absurd h (by decide)
  · intro same
    cases same
    exact absurd h (by decide)

theorem isQuote_of_isNameChar (h : isNameChar c = true) : isQuote c = false := by
  by_contra quote
  rw [Bool.not_eq_false, isQuote, Bool.or_eq_true, beq_iff_eq, beq_iff_eq] at quote
  rcases quote with rfl | rfl <;> exact absurd h (by decide)

/-! ## One character after the other -/

theorem collapse_nil (open? last : Option Char) (pending : Bool) :
    collapse open? last pending [] = [] :=
  rfl

theorem collapse_space (space : isSpace c = true) (cs : List Char) :
    collapse none last pending (c :: cs) = collapse none last true cs :=
  if_pos space

theorem collapse_char (noSpace : isSpace c = false) (cs : List Char) :
    collapse none last pending (c :: cs)
      = due last pending c
          ++ c :: collapse (if isQuote c then some c else none) (some c) false cs := by
  refine (if_neg (by simp [noSpace])).trans ?_
  generalize collapse (if isQuote c then some c else none) (some c) false cs = later
  rw [due]
  split <;> rfl

theorem collapse_pair (c : Char) (cs : List Char) :
    collapse (some quote) last pending ('\\' :: c :: cs)
      = '\\' :: c :: collapse (some quote) (some c) false cs :=
  rfl

theorem collapse_quoted (plain : c ≠ '\\') (cs : List Char) :
    collapse (some quote) last pending (c :: cs)
      = c :: collapse (if c == quote then none else some quote) (some c) false cs := by
  rw [collapse]
  rintro d rest rfl
  exact absurd rfl plain

/-- White space alone makes white space due. -/
theorem collapse_blank (blank : Blank b) (cs : List Char) :
    collapse none last pending (b ++ cs) = collapse none last (pending || !b.isEmpty) cs := by
  induction b generalizing pending with
  | nil => simp
  | cons c b ih =>
    obtain ⟨space, blank⟩ := List.forall_mem_cons.1 blank
    rw [List.cons_append, collapse_space space, ih blank]
    simp

/-- The characters after which white space is written are all alike. -/
theorem collapse_last (h : Open last) (h' : Open last') (cs : List Char) :
    collapse none last pending cs = collapse none last' pending cs := by
  induction cs generalizing pending with
  | nil => rfl
  | cons c cs ih =>
    by_cases space : isSpace c = true
    · rw [collapse_space space, collapse_space space, ih]
    · rw [Bool.not_eq_true] at space
      rw [collapse_char space, collapse_char space, due_of_open h h']

/-- Text between quotes stays as it is. -/
theorem collapse_inside (h : Quoted.Inside quote raw) (ordinary : quote ≠ '\\') (cs : List Char) :
    collapse (some quote) last pending (raw ++ quote :: cs)
      = raw ++ quote :: collapse none (some quote) false cs := by
  induction h generalizing last pending with
  | nil =>
    rw [List.nil_append, collapse_quoted ordinary, beq_self_eq_true, if_pos rfl]
    rfl
  | pair others ih =>
    rw [List.cons_append, List.cons_append, collapse_pair, ih]
    rfl
  | char plain other others ih =>
    rw [List.cons_append, collapse_quoted plain, if_neg (by simpa using other), ih]
    rfl

theorem collapse_chars (chars : ∀ c ∈ name, isNameChar c = true) (h : Open last) (cs : List Char) :
    collapse none last false (name ++ cs) = name ++ collapse none none false cs := by
  induction name generalizing last with
  | nil => exact collapse_last h open_none cs
  | cons c name ih =>
    obtain ⟨here, later⟩ := List.forall_mem_cons.1 chars
    rw [List.cons_append, collapse_char (isSpace_of_isNameChar here), due_none,
      isQuote_of_isNameChar here, if_neg (by simp), ih later (open_of_isNameChar here)]
    rfl

/-- A name stays as it is, with the white space that is due before it. -/
theorem collapse_name (chars : ∀ d ∈ c :: name, isNameChar d = true) (cs : List Char) :
    collapse none last pending (c :: (name ++ cs))
      = due last pending c ++ (c :: name ++ collapse none none false cs) := by
  obtain ⟨here, later⟩ := List.forall_mem_cons.1 chars
  rw [collapse_char (isSpace_of_isNameChar here), isQuote_of_isNameChar here, if_neg (by simp),
    collapse_chars later (open_of_isNameChar here)]
  rfl

/-- White space that is due keeps names apart. -/
theorem endsName_collapse (ends : pending = false → EndsName cs) :
    EndsName (collapse none none pending cs) := by
  induction cs generalizing pending with
  | nil =>
    rw [collapse_nil]
    exact fun _ first => nomatch first
  | cons c cs ih =>
    by_cases space : isSpace c = true
    · rw [collapse_space space]
      exact ih nofun
    · rw [Bool.not_eq_true] at space
      rw [collapse_char space]
      intro d first
      cases pending with
      | false =>
        obtain rfl : c = d := by simpa [due_none] using first
        exact ends rfl c rfl
      | true =>
        by_cases close : c = '>' ∨ c = '='
        · rcases close with rfl | rfl
          · obtain rfl : '>' = d := by simpa [due_close] using first
            decide
          · obtain rfl : '=' = d := by simpa [due_equals] using first
            decide
        · obtain ⟨notClose, notEquals⟩ := not_or.1 close
          obtain rfl : ' ' = d := by simpa [due, notClose, notEquals] using first
          decide

/-! ## Attributes -/

/-- Attributes on one line are read as the attributes that were written. -/
theorem attributes_collapse (h : Pattern.Attributes engine tag cs tag') (pending : Bool) :
    Pattern.Attributes engine tag (collapse none none pending cs) tag' := by
  induction h generalizing pending with
  | @close tag b blank =>
    rw [collapse_blank blank, collapse_char (by decide), due_close, collapse_nil]
    exact .close blank_nil
  | @bare tag tag' b name cs blank isName ends others ih =>
    obtain ⟨c, name, rfl⟩ := List.exists_cons_of_ne_nil isName.nonempty
    rw [collapse_blank blank, List.cons_append, collapse_name isName.chars]
    exact .bare blank_due isName (endsName_collapse fun _ => ends) (ih false)
  | @valued tag tag' tag'' b name before after raw cs quote blank isName blankBefore blankAfter
      isQuote inside puts others ih =>
    obtain ⟨c, name, rfl⟩ := List.exists_cons_of_ne_nil isName.nonempty
    have noSpace : isSpace quote = false := by rcases isQuote with rfl | rfl <;> decide
    have ordinary : quote ≠ '\\' := by rcases isQuote with rfl | rfl <;> decide
    have quoteMark : Layout.isQuote quote = true := by rcases isQuote with rfl | rfl <;> rfl
    have opens : Open (some quote) := by rcases isQuote with rfl | rfl <;> exact ⟨nofun, nofun⟩
    rw [collapse_blank blank, List.cons_append, collapse_name isName.chars,
      collapse_blank blankBefore, collapse_char (by decide), due_equals, if_neg (by decide),
      collapse_blank blankAfter, collapse_char noSpace, due_after_equals, if_pos quoteMark,
      collapse_inside inside ordinary, collapse_last opens open_none]
    exact .valued blank_due isName blank_nil blank_nil isQuote inside puts (ih false)

/-- A tag on one line is read as the tag that was written. -/
theorem tagText_collapse (h : TagText options text tag) :
    ∃ text', collapse none none false ('<' :: text) = '<' :: text' ∧ TagText options text' tag := by
  cases h with
  | @intro _ b type attributes blank isName allowed ends written =>
    refine ⟨type ++ collapse none none false attributes, ?_, ?_⟩
    · obtain ⟨c, type, rfl⟩ := List.exists_cons_of_ne_nil isName.nonempty
      rw [collapse_char (by decide), due_none, if_neg (by decide), collapse_blank blank,
        List.cons_append, collapse_name isName.chars, due_after_bracket]
      rfl
    · exact .intro (b := []) blank_nil isName allowed (endsName_collapse fun _ => ends)
        (attributes_collapse written false)

end

end SpanSearch.Layout
