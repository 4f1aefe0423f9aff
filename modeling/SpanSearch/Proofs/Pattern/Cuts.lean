import SpanSearch.Proofs.Pattern.Words

/-! # The parts of a pattern

The text of a pattern can be cut into parts, before and after which white space may stand: the
pieces outside of tags, and within a tag its brackets, the names, the equals signs and the values.
The cut is told by the characters alone, and every text that compiles has one.
-/

namespace SpanSearch.Pattern

open Unicode

/-- Whether a text is the expression of a setter in parentheses with a colon, or nothing. -/
inductive ScopeText : List Char → Prop
  | none : ScopeText []
  | some {text : List Char} (balanced : Balanced 0 none text) :
      ScopeText ('(' :: (text ++ [')', ':']))

/-- Whether a text is the separator of a setter in brackets, or nothing. -/
inductive BracketText : List Char → Prop
  | none : BracketText []
  | some {text : List Char} (noBackslash : text.getLast? ≠ some '\\') :
      BracketText ('[' :: (bracketed text ++ [']']))

/-- Whether a text outside of tags is a part: a parenthesis, a bar, a quantifier, quoted text or a
setter. -/
inductive Unbroken : List Char → Prop
  | mark {c : Char} (isMark : c ∈ ['(', ')', '|', '?', '*', '+']) : Unbroken [c]
  | quoted {quote : Char} {raw : List Char} (isQuote : quote = '\'' ∨ quote = '"')
      (inside : Quoted.Inside quote raw) : Unbroken (quote :: (raw ++ [quote]))
  | braces {inner : List Char} (within : '}' ∉ inner) : Unbroken ('{' :: (inner ++ ['}']))
  | setter {scope name bracket : List Char} (scopeText : ScopeText scope) (isName : IsName name)
      (bracketText : BracketText bracket) : Unbroken ('@' :: (scope ++ (name ++ bracket)))

/-- Whether texts are the parts that a tag is cut into after its opening bracket: white space, names
as long as they go on, equals signs and values, and then the closing bracket. -/
inductive TagCut : List (List Char) → Prop
  | close : TagCut [['>']]
  | space {c : Char} {parts : List (List Char)} (space : isSpace c = true) (others : TagCut parts) :
      TagCut ([c] :: parts)
  | name {name : List Char} {parts : List (List Char)} (isName : IsName name)
      (ends : EndsName parts.flatten) (others : TagCut parts) : TagCut (name :: parts)
  | equals {parts : List (List Char)} (others : TagCut parts) : TagCut (['='] :: parts)
  | value {quote : Char} {raw : List Char} {parts : List (List Char)}
      (isQuote : quote = '\'' ∨ quote = '"') (inside : Quoted.Inside quote raw)
      (others : TagCut parts) : TagCut ((quote :: (raw ++ [quote])) :: parts)

/-- Whether texts are the parts that a pattern is cut into. -/
inductive Cut : List (List Char) → Prop
  | nil : Cut []
  | space {c : Char} {parts : List (List Char)} (space : isSpace c = true) (others : Cut parts) :
      Cut ([c] :: parts)
  | unbroken {w : List Char} {parts : List (List Char)} (unbroken : Unbroken w)
      (others : Cut parts) : Cut (w :: parts)
  | tag {inner parts : List (List Char)} (tag : TagCut inner) (others : Cut parts) :
      Cut (['<'] :: (inner ++ parts))

/-- Whether a text is made of parts with white space before some of them. -/
inductive Airs : List (List Char) → List Char → Prop
  | nil : Airs [] []
  | cons {b w cs : List Char} {parts : List (List Char)} (blank : Blank b)
      (others : Airs parts cs) : Airs (w :: parts) (b ++ (w ++ cs))

/-- Whether a text is made of parts with white space around them. -/
def Spaced (parts : List (List Char)) (text : List Char) : Prop :=
  ∃ cs b, Airs parts cs ∧ Blank b ∧ text = cs ++ b

section

variable {options : Options} {engine : Expression.Engine} {tag tag' : Tag} {cs b w : List Char}
  {parts parts' : List (List Char)} {p : Piece} {ps : List Piece}

theorem airs_flatten (parts : List (List Char)) : Airs parts parts.flatten := by
  induction parts with
  | nil => exact .nil
  | cons w parts ih => exact .cons blank_nil ih

/-- The parts by themselves make up a text. -/
theorem spaced_flatten (parts : List (List Char)) : Spaced parts parts.flatten :=
  ⟨_, [], airs_flatten parts, blank_nil, (List.append_nil _).symm⟩

theorem airs_append (h : Airs (parts ++ parts') cs) :
    ∃ first later, cs = first ++ later ∧ Airs parts first ∧ Airs parts' later := by
  induction parts generalizing cs with
  | nil => exact ⟨[], cs, rfl, .nil, h⟩
  | cons w parts ih =>
    cases h with
    | @cons b _ cs _ blank others =>
      obtain ⟨first, later, rfl, airs, airs'⟩ := ih others
      exact ⟨b ++ (w ++ first), later, by simp only [List.append_assoc], .cons blank airs, airs'⟩

/-! ## Cutting a text -/

/-- The characters of a text as parts. -/
def singles (b : List Char) : List (List Char) := b.map fun c => [c]

@[simp] theorem flatten_singles (b : List Char) : (singles b).flatten = b := by
  induction b with
  | nil => rfl
  | cons c b ih => exact congrArg (c :: ·) ih

theorem TagCut.singles_append (h : TagCut parts) (blank : Blank b) :
    TagCut (singles b ++ parts) := by
  induction b with
  | nil => exact h
  | cons c b ih =>
    obtain ⟨space, blank⟩ := List.forall_mem_cons.1 blank
    exact .space space (ih blank)

theorem Cut.singles_append (h : Cut parts) (blank : Blank b) : Cut (singles b ++ parts) := by
  induction b with
  | nil => exact h
  | cons c b ih =>
    obtain ⟨space, blank⟩ := List.forall_mem_cons.1 blank
    exact .space space (ih blank)

theorem Attributes.exists_cut (h : Attributes engine tag cs tag') :
    ∃ parts, TagCut parts ∧ parts.flatten = cs := by
  induction h with
  | @close tag b blank => exact ⟨singles b ++ [['>']], TagCut.close.singles_append blank, by simp⟩
  | @bare tag tag' b name cs blank isName ends others ih =>
    obtain ⟨parts, tagCut, rfl⟩ := ih
    exact ⟨singles b ++ name :: parts, (tagCut.name isName ends).singles_append blank, by simp⟩
  | @valued tag tag' tag'' b name before after raw cs quote blank isName blankBefore blankAfter
      isQuote inside puts others ih =>
    obtain ⟨parts, tagCut, rfl⟩ := ih
    have value := (tagCut.value isQuote inside).singles_append blankAfter
    have equals := value.equals.singles_append blankBefore
    refine ⟨_, (equals.name isName ?_).singles_append blank, by simp⟩
    rw [List.flatten_append, flatten_singles]
    refine blankBefore.endsName fun c first => ?_
    obtain rfl : '=' = c := by simpa using first
    decide

theorem TagText.exists_cut (h : TagText options cs tag) :
    ∃ parts, TagCut parts ∧ parts.flatten = cs := by
  obtain ⟨blank, isName, -, ends, written⟩ := h
  obtain ⟨parts, tagCut, rfl⟩ := written.exists_cut
  exact ⟨_, (tagCut.name isName ends).singles_append blank, by simp⟩

theorem Scope.scopeText {e : Option Expression} (h : Scope engine w e) : ScopeText w := by
  cases h with
  | none => exact .none
  | some balanced => exact .some balanced

theorem Writable.bracketText {policy : Policy} (writable : Writable policy) :
    BracketText (printPolicy policy) := by
  by_cases unset : policy = .join none
  · rw [unset]
    exact .none
  · obtain ⟨text, noBackslash, rfl⟩ := writable.exists_text unset
    rw [printPolicy_policyOf]
    exact .some noBackslash

/-- A word is a part or, if it is a tag, is cut into several. -/
theorem Word.exists_cut (h : Word options w p) (others : Cut parts) :
    ∃ parts', Cut parts' ∧ parts'.flatten = w ++ parts.flatten := by
  have unbroken (h : Unbroken w) : ∃ parts', Cut parts' ∧ parts'.flatten = w ++ parts.flatten :=
    ⟨w :: parts, others.unbroken h, rfl⟩
  cases h with
  | tag written =>
    obtain ⟨inner, tagCut, rfl⟩ := written.exists_cut
    exact ⟨['<'] :: (inner ++ parts), others.tag tagCut, by simp⟩
  | literal inside => exact unbroken (.quoted (.inl rfl) inside)
  | regex inside => exact unbroken (.quoted (.inr rfl) inside)
  | braces within => exact unbroken (.braces within)
  | setter inScope isName writable =>
    exact unbroken (.setter inScope.scopeText isName writable.bracketText)
  | _ => exact unbroken (.mark (by decide))

/-- A row of words can be cut into parts. -/
theorem Written.exists_cut (h : Written options cs ps) :
    ∃ parts, Cut parts ∧ parts.flatten = cs := by
  induction h with
  | @nil b blank => exact ⟨singles b ++ [], Cut.nil.singles_append blank, by simp⟩
  | @cons b w cs p ps blank word others ih =>
    obtain ⟨parts, cut, rfl⟩ := ih
    obtain ⟨parts', cut', whole⟩ := word.exists_cut cut
    exact ⟨singles b ++ parts', cut'.singles_append blank, by simp [whole]⟩

end

end SpanSearch.Pattern
