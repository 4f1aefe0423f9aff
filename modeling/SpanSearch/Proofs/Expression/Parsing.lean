import SpanSearch.Proofs.Expression.Derived
import SpanSearch.Proofs.Expression.Descent

/-! # The parser meets the grammar

The parser of expressions accepts the lexemes that the grammar derives, and no others. The term it
builds is the one that they stand for, with operands joined from the left, so an expression has just
the value that the grammar gives it.
-/

namespace SpanSearch.Expression

open SpanSearch.Cursor (ok_bind)

/-- The parser of a part. -/
def Part.parse (stop : Nat) : Part → Nat → Lexemes → Attempt (Term × Lexemes)
  | either => parseEither stop
  | both => parseBoth stop
  | compare => parseCompare stop
  | primary => parsePrimary stop

/-- How much less fuel than eight units for each lexeme is enough for a part. -/
def Part.slack : Part → Nat
  | either => 4
  | both => 5
  | compare => 6
  | primary => 7

/-- Whether a lexeme goes on with a part of an expression that could end before it. -/
def Part.goesOn : Part → Lexeme → Bool
  | either, .word name => name == "or" || name == "and"
  | both, .word name => name == "and"
  | primary, .comparison _ => false
  | _, .comparison _ => true
  | _, _ => false

/-- Whether a part of an expression ends before these lexemes. -/
def Part.EndsBefore (part : Part) (rest : Lexemes) : Prop :=
  ∀ l offset after, rest = (l, offset) :: after → part.goesOn l = false

/-- Whether a part is parsed to a term wherever it ends, with fuel enough. -/
def Parses (stop : Nat) (part : Part) (w : List Lexeme) (term : Term) : Prop :=
  ∀ (ls rest : Lexemes) (fuel : Nat), ls.bare = w → part.EndsBefore rest →
    8 * w.length ≤ fuel + part.slack → part.parse stop fuel (ls ++ rest) = .ok (term, rest)

section

variable {stop fuel : Nat} {part : Part} {ls rest : Lexemes} {v w : List Lexeme} {l : Lexeme}
  {term left : Term} {items : List (List Lexeme × Term)}

theorem endsBefore_cons {offset : Nat} (ends : part.goesOn l = false) :
    part.EndsBefore ((l, offset) :: rest) := by
  rintro l' offset' after eq
  cases eq
  exact ends

theorem endsBefore_primary : Part.primary.EndsBefore rest := by
  intro l offset after _
  cases l <;> rfl

theorem Part.EndsBefore.both (ends : Part.either.EndsBefore rest) : Part.both.EndsBefore rest := by
  intro l offset after eq
  have ends := ends l offset after eq
  cases l <;> simp_all [goesOn]

theorem Part.EndsBefore.compare (ends : Part.both.EndsBefore rest) :
    Part.compare.EndsBefore rest := by
  intro l offset after eq
  have ends := ends l offset after eq
  cases l <;> simp_all [goesOn]

theorem exists_append (words : ls.bare = v ++ w) :
    ∃ before after : Lexemes, ls = before ++ after ∧ before.bare = v ∧ after.bare = w :=
  List.map_eq_append_iff.1 words

theorem exists_cons (words : ls.bare = l :: w) :
    ∃ (offset : Nat) (after : Lexemes), ls = (l, offset) :: after ∧ after.bare = w := by
  obtain ⟨⟨_, offset⟩, after, rfl, rfl, rfl⟩ := List.map_eq_cons_iff.1 words
  exact ⟨offset, after, rfl, rfl⟩

/-- Lexemes that end in a parenthesis. -/
theorem exists_closed (words : ls.bare = w ++ [.closeParen]) :
    ∃ (before : Lexemes) (offset : Nat), ls = before ++ [(.closeParen, offset)]
      ∧ before.bare = w := by
  obtain ⟨before, tail, rfl, here, later⟩ := exists_append words
  obtain ⟨offset, after, rfl, none⟩ := exists_cons later
  obtain rfl : after = [] := List.map_eq_nil_iff.1 none
  exact ⟨before, offset, rfl, here⟩

theorem length_bare (ls : Lexemes) : ls.bare.length = ls.length := List.length_map ..

/-- Operands with a mark before them begin with the mark and the first of them. -/
theorem exists_preceded {item : List Lexeme × Term}
    (words : ls.bare = preceded l (item :: items)) :
    ∃ (offset : Nat) (before after : Lexemes), ls = (l, offset) :: (before ++ after)
      ∧ before.bare = item.1 ∧ after.bare = preceded l items := by
  obtain ⟨offset, tail, rfl, words'⟩ := exists_cons words
  obtain ⟨before, after, rfl, here, later⟩ := exists_append words'
  exact ⟨offset, before, after, rfl, here, later⟩

/-- A part that ends before a mark and before what comes later ends before operands with it. -/
theorem endsBefore_preceded (words : ls.bare = preceded l items) (mark : part.goesOn l = false)
    (ends : part.EndsBefore rest) : part.EndsBefore (ls ++ rest) := by
  cases items with
  | nil =>
    obtain rfl : ls = [] := List.map_eq_nil_iff.1 words
    exact ends
  | cons item items =>
    obtain ⟨offset, before, after, rfl, -⟩ := exists_preceded words
    exact endsBefore_cons mark

/-- A loop over operands joins them all. It goes on at the mark, with a parser of one operand, and
it leaves what does not go on with the whole. -/
theorem loop_parses {whole : Part} {more : Nat → Term → Lexemes → Attempt (Term × Lexemes)}
    {join : Term → Term → Term}
    (goes : ∀ fuel left offset input, more (fuel + 1) left ((l, offset) :: input)
      = part.parse stop fuel input >>= fun (right, rest) => more fuel (join left right) rest)
    (stops : ∀ fuel left rest, whole.EndsBefore rest → more fuel left rest = .ok (left, rest))
    (within : ∀ {rest}, whole.EndsBefore rest → part.EndsBefore rest)
    (mark : part.goesOn l = false) (each : ∀ item ∈ items, Parses stop part item.1 item.2)
    (words : ls.bare = preceded l items) (ends : whole.EndsBefore rest)
    (enough : 8 * ls.length ≤ fuel) :
    more fuel left (ls ++ rest) = .ok ((items.map (·.2)).foldl join left, rest) := by
  induction items generalizing ls left fuel with
  | nil =>
    obtain rfl : ls = [] := List.map_eq_nil_iff.1 words
    exact stops fuel left rest ends
  | cons item items ih =>
    obtain ⟨first, others⟩ := List.forall_mem_cons.1 each
    obtain ⟨offset, before, after, rfl, here, later⟩ := exists_preceded words
    have size := length_bare before
    simp only [List.length_cons, List.length_append] at enough
    obtain ⟨fuel, rfl⟩ : ∃ n, fuel = n + 1 := ⟨fuel - 1, by omega⟩
    have parsed : part.parse stop fuel (before ++ (after ++ rest)) = .ok (item.2, after ++ rest) :=
      first before (after ++ rest) fuel here (endsBefore_preceded later mark (within ends))
        (by rw [← here]; omega)
    rw [List.cons_append, List.append_assoc, goes, parsed]
    exact ih others later (by omega)

theorem either_parses (nonempty : 0 < w.length) (first : Parses stop .both w term)
    (others : ∀ item ∈ items, Parses stop .both item.1 item.2) :
    Parses stop .either (w ++ preceded (.word "or") items)
      ((items.map (·.2)).foldl .either term) := by
  intro ls rest fuel words ends enough
  obtain ⟨before, after, rfl, here, later⟩ := exists_append words
  have size := length_bare after
  simp only [List.length_append, ← later, Part.slack] at enough
  obtain ⟨fuel, rfl⟩ : ∃ n, fuel = n + 1 := ⟨fuel - 1, by omega⟩
  have parsed : parseBoth stop fuel (before ++ (after ++ rest)) = .ok (term, after ++ rest) :=
    first before (after ++ rest) fuel here (endsBefore_preceded later rfl ends.both)
      (by simp only [Part.slack]; omega)
  simp only [Part.parse, List.append_assoc, parseEither, parsed]
  refine loop_parses (fun _ _ _ _ => rfl) (fun fuel left rest ends => ?_) Part.EndsBefore.both rfl
    others later ends (by omega)
  refine Cursor.moreEither_other fun offset after eq => ?_
  cases ends _ offset after eq

theorem both_parses (nonempty : 0 < w.length) (first : Parses stop .compare w term)
    (others : ∀ item ∈ items, Parses stop .compare item.1 item.2) :
    Parses stop .both (w ++ preceded (.word "and") items)
      ((items.map (·.2)).foldl .both term) := by
  intro ls rest fuel words ends enough
  obtain ⟨before, after, rfl, here, later⟩ := exists_append words
  have size := length_bare after
  simp only [List.length_append, ← later, Part.slack] at enough
  obtain ⟨fuel, rfl⟩ : ∃ n, fuel = n + 1 := ⟨fuel - 1, by omega⟩
  have parsed : parseCompare stop fuel (before ++ (after ++ rest)) = .ok (term, after ++ rest) :=
    first before (after ++ rest) fuel here (endsBefore_preceded later rfl ends.compare)
      (by simp only [Part.slack]; omega)
  simp only [Part.parse, List.append_assoc, parseBoth, parsed]
  refine loop_parses (fun _ _ _ _ => rfl) (fun fuel left rest ends => ?_) Part.EndsBefore.compare
    rfl others later ends (by omega)
  refine Cursor.moreBoth_other fun offset after eq => ?_
  cases ends _ offset after eq

theorem alone_parses (nonempty : 0 < w.length) (only : Parses stop .primary w term) :
    Parses stop .compare w term := by
  intro ls rest fuel words ends enough
  simp only [Part.slack] at enough
  obtain ⟨fuel, rfl⟩ : ∃ n, fuel = n + 1 := ⟨fuel - 1, by omega⟩
  have parsed : parsePrimary stop fuel (ls ++ rest) = .ok (term, rest) :=
    only ls rest fuel words endsBefore_primary (by simp only [Part.slack]; omega)
  simp only [Part.parse, parseCompare, parsed, bind, Except.bind]
  split
  · next op offset after =>
    cases ends _ _ _ rfl
  · rfl

theorem compare_parses {right : Term} (op : Comparison) (first : Parses stop .primary v term)
    (second : Parses stop .primary w right) :
    Parses stop .compare (v ++ .comparison op :: w) (.compare op term right) := by
  intro ls rest fuel words ends enough
  obtain ⟨before, tail, rfl, here, later⟩ := exists_append words
  obtain ⟨offset, after, rfl, later'⟩ := exists_cons later
  simp only [List.length_append, List.length_cons, Part.slack] at enough
  obtain ⟨fuel, rfl⟩ : ∃ n, fuel = n + 1 := ⟨fuel - 1, by omega⟩
  have parsed : parsePrimary stop fuel (before ++ (.comparison op, offset) :: (after ++ rest))
      = .ok (term, (.comparison op, offset) :: (after ++ rest)) :=
    first before _ fuel here endsBefore_primary (by simp only [Part.slack]; omega)
  have parsed' : parsePrimary stop fuel (after ++ rest) = .ok (right, rest) :=
    second after rest fuel later' endsBefore_primary (by simp only [Part.slack]; omega)
  simp only [Part.parse, List.append_assoc, List.cons_append, parseCompare, parsed, parsed', bind,
    Except.bind]

theorem group_parses (inner : Parses stop .either w term) :
    Parses stop .primary (.openParen :: (w ++ [.closeParen])) term := by
  intro ls rest fuel words _ enough
  obtain ⟨offset, tail, rfl, words'⟩ := exists_cons words
  obtain ⟨before, offset', rfl, here⟩ := exists_closed words'
  simp only [List.length_append, List.length_cons, List.length_nil, Part.slack] at enough
  obtain ⟨fuel, rfl⟩ : ∃ n, fuel = n + 1 := ⟨fuel - 1, by omega⟩
  have parsed : parseEither stop fuel (before ++ (.closeParen, offset') :: rest)
      = .ok (term, (.closeParen, offset') :: rest) :=
    inner before _ fuel here (endsBefore_cons rfl) (by simp only [Part.slack]; omega)
  simp only [Part.parse, List.cons_append, List.append_assoc, List.nil_append, parsePrimary, parsed,
    bind, Except.bind]

/-- The arguments of a call are parsed up to its closing parenthesis. -/
theorem moreArguments_parses {name : String} {offset : Nat} {item : List Lexeme × Term}
    (each : ∀ operand ∈ item :: items, Parses stop .either operand.1 operand.2)
    (words : ls.bare = separated .comma (item :: items)) (enough : 8 * ls.length < fuel) :
    moreArguments stop name fuel (ls ++ (.closeParen, offset) :: rest)
      = .ok ((item :: items).map (·.2), rest) := by
  obtain ⟨fuel, rfl⟩ : ∃ n, fuel = n + 1 := ⟨fuel - 1, by omega⟩
  induction items generalizing ls item fuel with
  | nil =>
    have here : ls.bare = item.1 := by simpa [separated, preceded] using words
    have size := length_bare ls
    have parsed : parseEither stop fuel (ls ++ (.closeParen, offset) :: rest)
        = .ok (item.2, (.closeParen, offset) :: rest) :=
      each item List.mem_cons_self ls _ fuel here (endsBefore_cons rfl)
        (by rw [← here]; simp only [Part.slack]; omega)
    rw [moreArguments, parsed]
    rfl
  | cons second items ih =>
    obtain ⟨first, others⟩ := List.forall_mem_cons.1 each
    obtain ⟨before, tail, rfl, here, later⟩ := exists_append words
    obtain ⟨offset', middle, after, rfl, here', later'⟩ := exists_preceded later
    have size := length_bare before
    simp only [List.length_append, List.length_cons] at enough
    obtain ⟨fuel, rfl⟩ : ∃ n, fuel = n + 1 := ⟨fuel - 1, by omega⟩
    have parsed : parseEither stop (fuel + 1)
          (before ++ (.comma, offset') :: (middle ++ after ++ (.closeParen, offset) :: rest))
        = .ok (item.2, (.comma, offset') :: (middle ++ after ++ (.closeParen, offset) :: rest)) :=
      first before _ (fuel + 1) here (endsBefore_cons rfl)
        (by rw [← here]; simp only [Part.slack]; omega)
    have words' : (middle ++ after).bare = separated .comma (second :: items) := by
      rw [Lexemes.bare_append, here', later', separated]
    have parsed' := ih others words' fuel (by simp only [List.length_append]; omega)
    rw [List.append_assoc before, List.cons_append, moreArguments, parsed, ok_bind]
    simp only [parsed', ok_bind, List.map_cons]

/-- The arguments of a call are parsed up to its closing parenthesis. -/
theorem arguments_parses {name : String} {offset : Nat}
    (heads : ∀ item ∈ items, ∃ l v, item.1 = l :: v ∧ l ≠ .closeParen)
    (each : ∀ item ∈ items, Parses stop .either item.1 item.2)
    (words : ls.bare = separated .comma items) (enough : 8 * ls.length < fuel) :
    parseArguments stop name (fuel + 1) (ls ++ (.closeParen, offset) :: rest)
      = .ok (items.map (·.2), rest) := by
  cases items with
  | nil =>
    obtain rfl : ls = [] := List.map_eq_nil_iff.1 words
    rfl
  | cons item items =>
    obtain ⟨l, v, head, other⟩ := heads item List.mem_cons_self
    have parsed : moreArguments stop name fuel (ls ++ (.closeParen, offset) :: rest)
        = .ok ((item :: items).map (·.2), rest) := moreArguments_parses each words enough
    rw [separated, head] at words
    obtain ⟨offset', after, rfl, -⟩ := exists_cons words
    rw [← parsed, List.cons_append]
    cases l <;> first | rfl | exact absurd rfl other

theorem call_parses {name : String} {f : Function} (known : Function.ofName? name = some f)
    (takes : f.takes items.length = true)
    (heads : ∀ item ∈ items, ∃ l v, item.1 = l :: v ∧ l ≠ .closeParen)
    (arguments : ∀ item ∈ items, Parses stop .either item.1 item.2) :
    Parses stop .primary (.word name :: .openParen :: (separated .comma items ++ [.closeParen]))
      (.call f (items.map (·.2))) := by
  intro ls rest fuel words _ enough
  obtain ⟨offset, tail, rfl, words'⟩ := exists_cons words
  obtain ⟨offset', inner, rfl, words''⟩ := exists_cons words'
  obtain ⟨before, last, rfl, here⟩ := exists_closed words''
  have size := length_bare before
  simp only [List.length_append, List.length_cons, List.length_nil, ← here, Part.slack] at enough
  obtain ⟨fuel, rfl⟩ : ∃ n, fuel = n + 2 := ⟨fuel - 2, by omega⟩
  have parsed : parseArguments stop name (fuel + 1) (before ++ (.closeParen, last) :: rest)
      = .ok (items.map (·.2), rest) := arguments_parses heads arguments here (by omega)
  simp only [Part.parse, List.cons_append, List.append_assoc, List.nil_append, parsePrimary, known,
    parsed, ok_bind, List.length_map, takes, if_true]

theorem single_parses {l : Lexeme}
    (parsed : ∀ fuel offset rest,
      parsePrimary stop (fuel + 1) ((l, offset) :: rest) = .ok (term, rest)) :
    Parses stop .primary [l] term := by
  intro ls rest fuel words _ enough
  obtain ⟨offset, after, rfl, none⟩ := exists_cons words
  obtain rfl : after = [] := List.map_eq_nil_iff.1 none
  simp only [List.length_cons, List.length_nil, Part.slack] at enough
  obtain ⟨fuel, rfl⟩ : ∃ n, fuel = n + 1 := ⟨fuel - 1, by omega⟩
  exact parsed fuel offset rest

/-- What is derived is parsed, by induction on the derivation. -/
theorem parses_of_derives (derives : Reading.tree.Derives part w term) :
    Parses stop part w term := by
  induction derives with
  | either first _ first_ih others_ih => exact either_parses first.length_pos first_ih others_ih
  | both first _ first_ih others_ih => exact both_parses first.length_pos first_ih others_ih
  | alone only ih => exact alone_parses only.length_pos ih
  | compare op _ _ left_ih right_ih => exact compare_parses op left_ih right_ih
  | literal text => exact single_parses fun _ _ _ => rfl
  | number x => exact single_parses fun _ _ _ => rfl
  | attr name => exact single_parses fun _ _ _ => rfl
  | @var name v known =>
    refine single_parses fun fuel offset rest => ?_
    simp only [parsePrimary, known]
    rfl
  | group _ ih => exact group_parses ih
  | call known takes arguments ih =>
    exact call_parses known takes (fun item mem => (arguments item mem).exists_head) ih

/-- The parser accepts just the lexemes that the grammar derives, and builds the term that they stand
for. So an expression evaluates to just what the grammar gives it as its value. -/
theorem ofLexemes_eq_ok_iff (stop : Nat) (input : Lexemes) :
    (∀ term, Term.ofLexemes stop input = .ok term ↔ Reading.tree.Derives .either input.bare term)
      ∧ ∀ tokens a outcome, (Reading.value tokens a).Derives .either input.bare outcome
        ↔ ∃ term, Term.ofLexemes stop input = .ok term ∧ term.eval tokens a = outcome := by
  have accepts (term : Term) :
      Term.ofLexemes stop input = .ok term ↔ Reading.tree.Derives .either input.bare term := by
    constructor
    · intro parsed
      obtain ⟨⟨term', rest⟩, taken, ended⟩ := bind_eq_ok.1 parsed
      cases rest with
      | nil =>
        cases ended
        obtain ⟨ls, rfl, derives⟩ := (sound stop _).either taken
        rwa [List.append_nil]
      | cons l rest => cases ended
    · intro derives
      have parsed : parseEither stop (8 * (input.length + 1)) (input ++ []) = .ok (term, []) :=
        parses_of_derives derives input [] (8 * (input.length + 1)) rfl nofun
          (by rw [length_bare]; simp only [Part.slack]; omega)
      rw [List.append_nil] at parsed
      rw [Term.ofLexemes, parsed]
      rfl
  refine ⟨accepts, fun tokens a outcome => ⟨fun derives => ?_, ?_⟩⟩
  · obtain ⟨term, derives', same⟩ := derives.exists_of_leads (leads_eval tokens a)
    exact ⟨term, (accepts term).2 derives', same⟩
  · rintro ⟨term, parsed, rfl⟩
    exact ((accepts term).1 parsed).map (leads_eval tokens a)

/-- Conjunction binds tighter than disjunction. -/
example : Term.ofLexemes 9 [(.attr "a", 0), (.word "or", 2), (.attr "b", 4), (.word "and", 6),
    (.attr "c", 8)] = .ok (.either (.attr "a") (.both (.attr "b") (.attr "c"))) := rfl

end

end SpanSearch.Expression
