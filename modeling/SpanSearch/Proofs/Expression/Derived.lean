import SpanSearch.Proofs.Expression.Grammar

/-! # What the parser takes

Whatever the parser of expressions takes is derived by the grammar, and the term it builds is the one
that the lexemes stand for.
-/

namespace SpanSearch.Expression

theorem bind_eq_ok {x : Except ε α} {f : α → Except ε β} {y : β} :
    x >>= f = .ok y ↔ ∃ a, x = .ok a ∧ f a = .ok y := by
  cases x with
  | error fault => simp [bind, Except.bind]
  | ok a => simp [bind, Except.bind]

/-- The lexemes without their offsets. -/
def Lexemes.bare (ls : Lexemes) : List Lexeme := ls.map (·.1)

@[simp] theorem Lexemes.bare_nil : Lexemes.bare [] = [] := rfl

@[simp] theorem Lexemes.bare_cons (l : Lexeme × Nat) (ls : Lexemes) :
    Lexemes.bare (l :: ls) = l.1 :: Lexemes.bare ls := rfl

@[simp] theorem Lexemes.bare_append (ls ls' : Lexemes) :
    Lexemes.bare (ls ++ ls') = ls.bare ++ ls'.bare := List.map_append

/-- Whether lexemes start with a part of an expression that stands for a term, and what is left. -/
def Starts (part : Part) (input : Lexemes) (term : Term) (rest : Lexemes) : Prop :=
  ∃ ls : Lexemes, input = ls ++ rest ∧ Reading.tree.Derives part ls.bare term

/-- Whether lexemes start with operands that have a mark before each of them, and what is left. -/
def StartsMore (mark : Lexeme) (part : Part) (input : Lexemes) (terms : List Term)
    (rest : Lexemes) : Prop :=
  ∃ (ls : Lexemes) (items : List (List Lexeme × Term)), input = ls ++ rest
    ∧ ls.bare = preceded mark items ∧ items.map (·.2) = terms
    ∧ ∀ item ∈ items, Reading.tree.Derives part item.1 item.2

/-- Whether lexemes start with the arguments of a call and its closing parenthesis, and what is
left. -/
def StartsArguments (input : Lexemes) (terms : List Term) (rest : Lexemes) : Prop :=
  ∃ (ls : Lexemes) (offset : Nat) (items : List (List Lexeme × Term)),
    input = ls ++ (.closeParen, offset) :: rest ∧ ls.bare = separated .comma items
    ∧ items.map (·.2) = terms ∧ ∀ item ∈ items, Reading.tree.Derives .either item.1 item.2

section

variable {part : Part} {mark : Lexeme} {input mid rest : Lexemes} {term : Term}
  {terms : List Term} {offset : Nat}

theorem startsMore_nil : StartsMore mark part rest [] rest :=
  ⟨[], [], rfl, rfl, rfl, by simp⟩

theorem Starts.more (first : Starts part input term mid)
    (others : StartsMore mark part mid terms rest) :
    StartsMore mark part ((mark, offset) :: input) (term :: terms) rest := by
  obtain ⟨ls, rfl, derives⟩ := first
  obtain ⟨ls', items, rfl, words, rfl, each⟩ := others
  refine ⟨(mark, offset) :: (ls ++ ls'), (ls.bare, term) :: items, ?_, ?_, rfl,
    List.forall_mem_cons.2 ⟨derives, each⟩⟩
  · rw [List.cons_append, List.append_assoc]
  · rw [Lexemes.bare_cons, Lexemes.bare_append, words]
    rfl

theorem Starts.either (first : Starts .both input term mid)
    (others : StartsMore (.word "or") .both mid terms rest) :
    Starts .either input (terms.foldl .either term) rest := by
  obtain ⟨ls, rfl, derives⟩ := first
  obtain ⟨ls', items, rfl, words, rfl, each⟩ := others
  refine ⟨ls ++ ls', (List.append_assoc ..).symm, ?_⟩
  rw [Lexemes.bare_append, words]
  exact .either derives each

theorem Starts.both (first : Starts .compare input term mid)
    (others : StartsMore (.word "and") .compare mid terms rest) :
    Starts .both input (terms.foldl .both term) rest := by
  obtain ⟨ls, rfl, derives⟩ := first
  obtain ⟨ls', items, rfl, words, rfl, each⟩ := others
  refine ⟨ls ++ ls', (List.append_assoc ..).symm, ?_⟩
  rw [Lexemes.bare_append, words]
  exact .both derives each

theorem Starts.alone (only : Starts .primary input term rest) :
    Starts .compare input term rest := by
  obtain ⟨ls, same, derives⟩ := only
  exact ⟨ls, same, .alone derives⟩

theorem Starts.compare {op : Comparison} {left right : Term}
    (first : Starts .primary input left ((.comparison op, offset) :: mid))
    (second : Starts .primary mid right rest) :
    Starts .compare input (.compare op left right) rest := by
  obtain ⟨ls, rfl, derives⟩ := first
  obtain ⟨ls', rfl, derives'⟩ := second
  refine ⟨ls ++ (.comparison op, offset) :: ls', by simp, ?_⟩
  rw [Lexemes.bare_append, Lexemes.bare_cons]
  exact .compare op derives derives'

theorem Starts.group {offset' : Nat}
    (inner : Starts .either input term ((.closeParen, offset') :: rest)) :
    Starts .primary ((.openParen, offset) :: input) term rest := by
  obtain ⟨ls, rfl, derives⟩ := inner
  refine ⟨(.openParen, offset) :: (ls ++ [(.closeParen, offset')]), by simp, ?_⟩
  rw [Lexemes.bare_cons, Lexemes.bare_append]
  exact .group derives

theorem Starts.call {name : String} {f : Function} {offset' : Nat}
    (known : Function.ofName? name = some f) (takes : f.takes terms.length = true)
    (arguments : StartsArguments input terms rest) :
    Starts .primary ((.word name, offset) :: (.openParen, offset') :: input) (.call f terms)
      rest := by
  obtain ⟨ls, last, items, rfl, words, rfl, each⟩ := arguments
  refine ⟨(.word name, offset) :: (.openParen, offset') :: (ls ++ [(.closeParen, last)]),
    by simp, ?_⟩
  rw [Lexemes.bare_cons, Lexemes.bare_cons, Lexemes.bare_append, words]
  exact .call known (by simpa using takes) each

theorem startsArguments_none : StartsArguments ((.closeParen, offset) :: rest) [] rest :=
  ⟨[], offset, [], rfl, rfl, rfl, by simp⟩

theorem startsArguments_some (first : Starts .either input term mid)
    (others : StartsMore .comma .either mid terms ((.closeParen, offset) :: rest)) :
    StartsArguments input (term :: terms) rest := by
  obtain ⟨ls, rfl, derives⟩ := first
  obtain ⟨ls', items, rfl, words, rfl, each⟩ := others
  refine ⟨ls ++ ls', offset, (ls.bare, term) :: items, (List.append_assoc ..).symm, ?_, rfl,
    List.forall_mem_cons.2 ⟨derives, each⟩⟩
  rw [Lexemes.bare_append, words, separated]

end

/-- With the fuel that is left, each parser takes what the grammar derives. -/
structure Sound (stop fuel : Nat) : Prop where
  either {input rest : Lexemes} {term : Term} :
    parseEither stop fuel input = .ok (term, rest) → Starts .either input term rest
  moreEither {left term : Term} {input rest : Lexemes} :
    moreEither stop fuel left input = .ok (term, rest) →
      ∃ terms, StartsMore (.word "or") .both input terms rest ∧ terms.foldl .either left = term
  both {input rest : Lexemes} {term : Term} :
    parseBoth stop fuel input = .ok (term, rest) → Starts .both input term rest
  moreBoth {left term : Term} {input rest : Lexemes} :
    moreBoth stop fuel left input = .ok (term, rest) →
      ∃ terms, StartsMore (.word "and") .compare input terms rest ∧ terms.foldl .both left = term
  compare {input rest : Lexemes} {term : Term} :
    parseCompare stop fuel input = .ok (term, rest) → Starts .compare input term rest
  primary {input rest : Lexemes} {term : Term} :
    parsePrimary stop fuel input = .ok (term, rest) → Starts .primary input term rest
  arguments {name : String} {input rest : Lexemes} {terms : List Term} :
    parseArguments stop name fuel input = .ok (terms, rest) → StartsArguments input terms rest
  moreArguments {name : String} {input rest : Lexemes} {terms : List Term} :
    moreArguments stop name fuel input = .ok (terms, rest) →
      ∃ first others mid offset, Starts .either input first mid
        ∧ StartsMore .comma .either mid others ((.closeParen, offset) :: rest)
        ∧ first :: others = terms

section

variable {stop fuel : Nat} {input rest : Lexemes} {term left : Term} {terms : List Term}

theorem either_sound (sound : Sound stop fuel)
    (parsed : parseEither stop (fuel + 1) input = .ok (term, rest)) :
    Starts .either input term rest := by
  rw [parseEither] at parsed
  obtain ⟨⟨left, mid⟩, first, parsed⟩ := bind_eq_ok.1 parsed
  obtain ⟨terms, others, rfl⟩ := sound.moreEither parsed
  exact (sound.both first).either others

theorem moreEither_sound (sound : Sound stop fuel)
    (parsed : moreEither stop (fuel + 1) left input = .ok (term, rest)) :
    ∃ terms, StartsMore (.word "or") .both input terms rest ∧ terms.foldl .either left = term := by
  unfold moreEither at parsed
  split at parsed
  · next eq =>
    cases eq
    obtain ⟨⟨right, mid⟩, next, parsed⟩ := bind_eq_ok.1 parsed
    obtain ⟨terms, others, rfl⟩ := sound.moreEither parsed
    exact ⟨right :: terms, (sound.both next).more others, rfl⟩
  · cases parsed
    exact ⟨[], startsMore_nil, rfl⟩

theorem both_sound (sound : Sound stop fuel)
    (parsed : parseBoth stop (fuel + 1) input = .ok (term, rest)) :
    Starts .both input term rest := by
  rw [parseBoth] at parsed
  obtain ⟨⟨left, mid⟩, first, parsed⟩ := bind_eq_ok.1 parsed
  obtain ⟨terms, others, rfl⟩ := sound.moreBoth parsed
  exact (sound.compare first).both others

theorem moreBoth_sound (sound : Sound stop fuel)
    (parsed : moreBoth stop (fuel + 1) left input = .ok (term, rest)) :
    ∃ terms, StartsMore (.word "and") .compare input terms rest
      ∧ terms.foldl .both left = term := by
  unfold moreBoth at parsed
  split at parsed
  · next eq =>
    cases eq
    obtain ⟨⟨right, mid⟩, next, parsed⟩ := bind_eq_ok.1 parsed
    obtain ⟨terms, others, rfl⟩ := sound.moreBoth parsed
    exact ⟨right :: terms, (sound.compare next).more others, rfl⟩
  · cases parsed
    exact ⟨[], startsMore_nil, rfl⟩

theorem compare_sound (sound : Sound stop fuel)
    (parsed : parseCompare stop (fuel + 1) input = .ok (term, rest)) :
    Starts .compare input term rest := by
  rw [parseCompare] at parsed
  obtain ⟨⟨left, mid⟩, first, parsed⟩ := bind_eq_ok.1 parsed
  dsimp only at parsed
  split at parsed
  · obtain ⟨⟨right, after⟩, second, parsed⟩ := bind_eq_ok.1 parsed
    cases parsed
    exact (sound.primary first).compare (sound.primary second)
  · cases parsed
    exact (sound.primary first).alone

theorem call_sound (sound : Sound stop fuel) {name : String} {offset : Nat}
    (parsed : parsePrimary stop (fuel + 1) ((.word name, offset) :: input) = .ok (term, rest)) :
    Starts .primary ((.word name, offset) :: input) term rest := by
  simp only [parsePrimary] at parsed
  split at parsed
  · cases parsed
  · next f known =>
    obtain ⟨⟨arguments, mid⟩, taken, parsed⟩ := bind_eq_ok.1 parsed
    dsimp only at parsed
    split at parsed
    · next takes =>
      cases parsed
      exact .call known takes (sound.arguments taken)
    · cases parsed
  · cases parsed

theorem primary_sound (sound : Sound stop fuel)
    (parsed : parsePrimary stop (fuel + 1) input = .ok (term, rest)) :
    Starts .primary input term rest := by
  cases input with
  | nil =>
    rw [parsePrimary] at parsed
    cases parsed
  | cons l input =>
    obtain ⟨lexeme, offset⟩ := l
    have single {term : Term} (derives : Reading.tree.Derives .primary [lexeme] term) :
        Starts .primary ((lexeme, offset) :: input) term input := ⟨[(lexeme, offset)], rfl, derives⟩
    cases lexeme with
    | word name => exact call_sound sound parsed
    | literal text =>
      cases parsed
      exact single (.literal text)
    | number x =>
      cases parsed
      exact single (.number x)
    | attr name =>
      cases parsed
      exact single (.attr name)
    | var name =>
      simp only [parsePrimary] at parsed
      split at parsed
      · next v known =>
        cases parsed
        exact single (.var known)
      · cases parsed
    | openParen =>
      simp only [parsePrimary] at parsed
      obtain ⟨⟨inner, mid⟩, taken, parsed⟩ := bind_eq_ok.1 parsed
      dsimp only at parsed
      split at parsed
      · cases parsed
        exact (sound.either taken).group
      · cases parsed
    | comparison _ | closeParen | comma =>
      simp only [parsePrimary] at parsed
      cases parsed

theorem arguments_sound (sound : Sound stop fuel) {name : String}
    (parsed : parseArguments stop name (fuel + 1) input = .ok (terms, rest)) :
    StartsArguments input terms rest := by
  unfold parseArguments at parsed
  split at parsed
  · next eq => cases eq
  · cases parsed
    exact startsArguments_none
  · next eq _ =>
    cases eq
    obtain ⟨first, others, mid, offset, starts, more, rfl⟩ := sound.moreArguments parsed
    exact startsArguments_some starts more

theorem moreArguments_sound (sound : Sound stop fuel) {name : String}
    (parsed : moreArguments stop name (fuel + 1) input = .ok (terms, rest)) :
    ∃ first others mid offset, Starts .either input first mid
      ∧ StartsMore .comma .either mid others ((.closeParen, offset) :: rest)
      ∧ first :: others = terms := by
  rw [moreArguments] at parsed
  obtain ⟨⟨first, mid⟩, taken, parsed⟩ := bind_eq_ok.1 parsed
  have starts := sound.either taken
  dsimp only at parsed
  split at parsed
  · cases parsed
    exact ⟨first, [], _, _, starts, startsMore_nil, rfl⟩
  · obtain ⟨⟨others, after⟩, later, parsed⟩ := bind_eq_ok.1 parsed
    cases parsed
    obtain ⟨second, others, mid, offset, starts', more, rfl⟩ := sound.moreArguments later
    exact ⟨first, second :: others, _, offset, starts, starts'.more more, rfl⟩
  · cases parsed

/-- What the parsers take is derived, by induction on the fuel. -/
theorem sound (stop fuel : Nat) : Sound stop fuel := by
  induction fuel with
  | zero =>
    -- The loops alone take something without fuel, and that is nothing.
    exact {
      either := fun parsed => by cases parsed
      moreEither := fun parsed => by
        cases parsed
        exact ⟨[], startsMore_nil, rfl⟩
      both := fun parsed => by cases parsed
      moreBoth := fun parsed => by
        cases parsed
        exact ⟨[], startsMore_nil, rfl⟩
      compare := fun parsed => by cases parsed
      primary := fun parsed => by cases parsed
      arguments := fun parsed => by cases parsed
      moreArguments := fun parsed => by cases parsed }
  | succ fuel ih =>
    exact {
      either := either_sound ih
      moreEither := moreEither_sound ih
      both := both_sound ih
      moreBoth := moreBoth_sound ih
      compare := compare_sound ih
      primary := primary_sound ih
      arguments := arguments_sound ih
      moreArguments := moreArguments_sound ih }

end

end SpanSearch.Expression
