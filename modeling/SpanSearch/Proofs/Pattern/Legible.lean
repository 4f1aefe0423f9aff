import SpanSearch.Proofs.Expression.Ending
import SpanSearch.Proofs.Pattern.Values

/-! # Tags that can be read back

A tag that has been read is printed as a text that writes it if and only if each of its parts stands
for itself there: no attribute that has to be present has the name of the test, no value is taken for
something else, and each value and the test can be written between double quotes.
-/

namespace SpanSearch

open Pattern

/-- Whether a condition can be read back from what is printed for it. -/
structure Constraint.Legible (c : Constraint) : Prop where
  name : c.name ≠ testAttribute
  quotable : Quoted.Quotable '"' (printTest c.test).toList
  plain : ∀ value, c.test = .oneOf [value] → ¬ Reserved value.toList

/-- Whether a tag can be read back from what is printed for it. -/
structure Tag.Legible (t : Tag) : Prop where
  constraints : ∀ c ∈ t.constraints, c.Legible
  test : ∀ e ∈ t.test, Quoted.Quotable '"' e.source.toList

/-- Whether a condition is read from an attribute of some tag. -/
structure Constraint.Read (c : Constraint) : Prop where
  name : IsName c.name.toList
  test : ∃ value, c.test = valueTest value
  bare : c.name = testAttribute → c.test = .present

/-- Whether a tag is read from some text. -/
structure Tag.Read (options : Options) (t : Tag) : Prop where
  type : IsName t.type.toList
  allowed : options.allowsType t.type.toList = true
  constraints : ∀ c ∈ t.constraints, c.Read
  test : ∀ e ∈ t.test, ∃ text, options.engine text = .ok e

namespace Pattern

open Unicode Quoted

section

variable {engine : Expression.Engine} {options : Options} {tag tag' : Tag} {left : Nat}
  {cs rest after value text : List Char} {constraints : List Constraint} {test : Option Expression}

/-! ## What is read -/

theorem read_withPresent {name : List Char} (isName : IsName name) :
    Constraint.Read ⟨String.ofList name, .present⟩ :=
  ⟨by simpa using isName, ⟨[], rfl⟩, fun _ => rfl⟩

/-- Reading attributes adds conditions that are read to those that a tag has. -/
theorem Attributes.adds (h : Attributes engine tag text tag') :
    tag'.type = tag.type
      ∧ (∃ added, tag'.constraints = tag.constraints ++ added ∧ ∀ c ∈ added, c.Read)
      ∧ ∀ e ∈ tag'.test, e ∈ tag.test ∨ ∃ text, engine text = .ok e := by
  induction h with
  | close => exact ⟨rfl, ⟨[], by simp⟩, fun e mem => .inl mem⟩
  | @bare tag tag' b name cs blank isName ends others ih =>
    obtain ⟨type, ⟨added, eq, read⟩, test⟩ := ih
    refine ⟨type, ⟨⟨String.ofList name, .present⟩ :: added, ?_, ?_⟩, test⟩
    · simp [eq, withPresent]
    · exact List.forall_mem_cons.2 ⟨read_withPresent isName, read⟩
  | @valued tag tag' tag'' b name before after raw cs quote blank isName _ _ _ _ puts others ih =>
    obtain ⟨type, ⟨added, eq, read⟩, test⟩ := ih
    unfold Puts at puts
    split at puts
    · obtain ⟨e, expression, rfl⟩ := puts
      refine ⟨type, ⟨added, eq, read⟩, fun e' mem => .inr ?_⟩
      rcases test e' mem with same | other
      · obtain rfl : e = e' := by simpa using same
        exact ⟨_, expression⟩
      · exact other
    · next notTest =>
      subst puts
      refine ⟨type, ⟨⟨String.ofList name, valueTest (meaning false quote raw)⟩ :: added, ?_, ?_⟩, test⟩
      · simp [eq]
      · refine List.forall_mem_cons.2 ⟨⟨by simpa using isName, ⟨_, rfl⟩, ?_⟩, read⟩
        exact fun isTest => absurd isTest notTest

theorem TagText.read (h : TagText options text tag) : tag.Read options := by
  cases h with
  | @intro _ b type attributes blank isName allowed ends written =>
    obtain ⟨sameType, ⟨added, eq, read⟩, test⟩ := written.adds
    dsimp only at sameType eq
    refine ⟨?_, ?_, ?_, fun e mem => ?_⟩
    · rwa [sameType, String.toList_ofList]
    · rwa [sameType, String.toList_ofList]
    · rwa [eq, List.nil_append]
    · rcases test e mem with impossible | read
      · cases impossible
      · exact read

/-! ## What is printed -/

/-- The attributes and the closing bracket of a tag as they are written. -/
def printAttributes (constraints : List Constraint) (test : Option Expression) : List Char :=
  constraints.flatMap (fun c => printAttribute c.name (printTest c.test))
    ++ ((test.map fun e => printAttribute "test" e.source).getD [] ++ ['>'])

theorem printTag_eq (t : Tag) :
    printTag t = '<' :: (t.type.toList ++ printAttributes t.constraints t.test) := by
  simp [printTag, printAttributes]

@[simp] theorem printAttributes_nil : printAttributes [] none = ['>'] := rfl

theorem printAttributes_test (e : Expression) :
    printAttributes [] (some e) = printAttribute "test" e.source ++ ['>'] := rfl

theorem printAttributes_cons (c : Constraint) :
    printAttributes (c :: constraints) test
      = printAttribute c.name (printTest c.test) ++ printAttributes constraints test := by
  simp [printAttributes]

theorem printAttribute_append (name value : String) (rest : List Char) :
    printAttribute name value ++ rest
      = ' ' :: (name.toList
          ++ '=' :: '"' :: (escape false '"' value.toList ++ '"' :: rest)) := by
  simp [printAttribute, quoted]

theorem endsName_printAttributes (constraints : List Constraint) (test : Option Expression)
    (rest : List Char) : EndsName (printAttributes constraints test ++ rest) := by
  have blank {name value : String} {rest : List Char} :
      EndsName (printAttribute name value ++ rest) := by
    rw [printAttribute_append]
    intro c first
    obtain rfl : ' ' = c := by simpa using first
    decide
  cases constraints with
  | cons c constraints =>
    rw [printAttributes_cons, List.append_assoc]
    exact blank
  | nil =>
    cases test with
    | some e =>
      rw [printAttributes_test, List.append_assoc]
      exact blank
    | none =>
      intro c first
      obtain rfl : '>' = c := by simpa using first
      decide

/-! ## Reading back -/

theorem attributes_printAttribute {name value : String} (isName : IsName name.toList)
    (quotable : Quotable '"' value.toList) (puts : Puts engine tag name.toList value.toList tag')
    {tag'' : Tag} (others : Attributes engine tag' rest tag'') :
    Attributes engine tag (printAttribute name value ++ rest) tag'' := by
  obtain ⟨inside, same⟩ := quotable.inside_escape (by decide)
  rw [← same] at puts
  rw [printAttribute_append]
  have blank : Blank [' '] := by simp [Blank, isSpace]
  exact .valued blank isName blank_nil blank_nil (.inr rfl) inside puts others

theorem puts_constraint {c : Constraint} (notTest : c.name ≠ testAttribute)
    (same : valueTest value = c.test) :
    Puts engine tag c.name.toList value
      { tag with constraints := tag.constraints ++ [c] } := by
  unfold Puts
  rw [String.ofList_toList, if_neg notTest, same]

theorem puts_test {e : Expression} (read : engine (String.ofList value) = .ok e) :
    Puts engine tag testAttribute.toList value { tag with test := some e } := by
  unfold Puts
  rw [if_pos String.ofList_toList]
  exact ⟨e, read, rfl⟩

theorem valueTest_of_legible {c : Constraint} (read : c.Read) (legible : c.Legible) :
    valueTest (printTest c.test).toList = c.test := by
  obtain ⟨value, eq⟩ := read.test
  rw [eq]
  exact valueTest_printTest fun w single => legible.plain w (eq.trans single)

theorem attributes_printAttributes (read : ∀ c ∈ constraints, c.Read)
    (legible : ∀ c ∈ constraints, c.Legible)
    (readTest : ∀ e ∈ test, engine e.source = .ok e)
    (legibleTest : ∀ e ∈ test, Quotable '"' e.source.toList) (fresh : tag.test = none) :
    Attributes engine tag (printAttributes constraints test)
      { tag with constraints := tag.constraints ++ constraints, test := test } := by
  induction constraints generalizing tag with
  | nil =>
    cases test with
    | none =>
      obtain ⟨type, constraints, test⟩ := tag
      subst fresh
      rw [List.append_nil]
      exact .close blank_nil
    | some e =>
      rw [printAttributes_test, List.append_nil]
      refine attributes_printAttribute isName_test (legibleTest e rfl) (puts_test ?_) (.close blank_nil)
      rw [String.ofList_toList]
      exact readTest e rfl
  | cons c constraints ih =>
    obtain ⟨readHere, readLater⟩ := List.forall_mem_cons.1 read
    obtain ⟨legibleHere, legibleLater⟩ := List.forall_mem_cons.1 legible
    rw [printAttributes_cons]
    refine attributes_printAttribute readHere.name legibleHere.quotable
      (puts_constraint legibleHere.name (valueTest_of_legible readHere legibleHere)) ?_
    have others := @ih { tag with constraints := tag.constraints ++ [c] } readLater legibleLater fresh
    rwa [List.append_assoc] at others

theorem standard_of_read (standard : options.engine = Expression.standard) (read : tag.Read options) :
    ∀ e ∈ tag.test, Expression.standard e.source = .ok e := by
  intro e mem
  obtain ⟨text, expression⟩ := read.test e mem
  rw [standard] at expression
  rw [Expression.source_of_standard expression]
  exact expression

/-- A legible tag is printed as a text that writes it. -/
theorem tagText_printTag (standard : options.engine = Expression.standard) (read : tag.Read options)
    (legible : tag.Legible) :
    TagText options (tag.type.toList ++ printAttributes tag.constraints tag.test) tag := by
  have readTest : ∀ e ∈ tag.test, options.engine e.source = .ok e := by
    rw [standard]
    exact standard_of_read standard read
  have written : Attributes options.engine ⟨tag.type, [], none⟩
      (printAttributes tag.constraints tag.test) tag :=
    attributes_printAttributes read.constraints legible.constraints readTest legible.test rfl
  have ends := endsName_printAttributes tag.constraints tag.test []
  rw [List.append_nil] at ends
  refine TagText.intro (b := []) blank_nil read.type read.allowed ends ?_
  rw [String.ofList_toList]
  exact written

/-! ## What is read back in any case -/

/-- A value between double quotes is put into a tag as it is read, whatever that is. -/
theorem puts_of_readAttribute {name : List Char} (isName : IsName name)
    (h : readAttribute engine tag (name ++ '=' :: '"' :: cs) = .ok (tag', rest)) :
    ∃ found, Quoted.read false '"' cs = some (found, rest) ∧ Puts engine tag name found tag' := by
  have ends : EndsName ('=' :: '"' :: cs) := endsName_equals blank_nil _
  have starts : trimStart ('=' :: '"' :: cs) = '=' :: '"' :: cs := trimStart_equals blank_nil _
  rw [readAttribute_equals isName ends starts, trimStart_cons (by decide)] at h
  obtain ⟨⟨found, after⟩, value, h⟩ := bind_eq_ok.1 h
  obtain ⟨puts, rfl⟩ := puts_iff.1 h
  have read : Quoted.read false '"' cs = some (found, rest) := by
    unfold readValue at value
    simp only [Bool.or_eq_true, beq_iff_eq, or_true, if_true] at value
    split at value
    · next read =>
      cases value
      exact read
    · cases value
  exact ⟨found, read, puts⟩

/-- An attribute that is printed is read back with its name, whatever its value is taken for. -/
theorem puts_of_readAttributes {name value : String} (isName : IsName name.toList)
    (h : readAttributes engine left tag (printAttribute name value ++ rest) = .ok (tag', after)) :
    ∃ found tag1 mid, Quoted.read false '"' (escape false '"' value.toList ++ '"' :: rest)
        = some (found, mid)
      ∧ Puts engine tag name.toList found tag1
      ∧ readAttributes engine left tag1 mid = .ok (tag', after) := by
  obtain ⟨c, others, eq⟩ := List.exists_cons_of_ne_nil isName.nonempty
  have first : isNameChar c = true := isName.chars c (by simp [eq])
  rw [printAttribute_append] at h
  have starts : trimStart (' ' :: (name.toList
      ++ '=' :: '"' :: (escape false '"' value.toList ++ '"' :: rest)))
        = c :: (others ++ '=' :: '"' :: (escape false '"' value.toList ++ '"' :: rest)) := by
    rw [eq]
    exact trimStart_cons (isSpace_of_isNameChar first) _
  obtain ⟨tag1, mid, read, h⟩ := (readAttributes_name starts first).1 h
  rw [← List.cons_append, ← eq] at read
  obtain ⟨found, read, puts⟩ := puts_of_readAttribute isName read
  exact ⟨found, tag1, mid, read, puts, h⟩

/-- What is read for a value that can be written is that value. -/
theorem eq_of_read {found mid : List Char} (quotable : Quotable '"' value)
    (read : Quoted.read false '"' (escape false '"' value ++ '"' :: rest) = some (found, mid)) :
    found = value ∧ mid = rest := by
  obtain ⟨inside, same⟩ := quotable.inside_escape (by decide)
  have read' := inside.read false (by decide) rest
  rw [same] at read'
  cases read'.symm.trans read
  exact ⟨rfl, rfl⟩

theorem not_test_of_puts {c : Constraint} {found mid : List Char} {tag1 : Tag} (read : c.Read)
    (reads : Quoted.read false '"' (escape false '"' (printTest c.test).toList ++ '"' :: rest)
      = some (found, mid))
    (puts : Puts Expression.standard tag c.name.toList found tag1) : c.name ≠ testAttribute := by
  intro isTest
  -- only a name alone asks for that, and the star that is printed after it is no expression
  have star : (printTest c.test).toList = ['*'] := by rw [read.bare isTest]; rfl
  rw [star] at reads
  obtain ⟨rfl, -⟩ := eq_of_read (by simp [Quotable]) reads
  unfold Puts at puts
  rw [String.ofList_toList, if_pos isTest] at puts
  obtain ⟨e, expression, -⟩ := puts
  exact Expression.standard_star e expression

theorem legible_of_read {c : Constraint} {found mid : List Char} (notTest : c.name ≠ testAttribute)
    (reads : Quoted.read false '"' (escape false '"' (printTest c.test).toList ++ '"' :: rest)
      = some (found, mid))
    (same : valueTest found = c.test) : c.Legible ∧ mid = rest := by
  have quotable : Quotable '"' (printTest c.test).toList := by
    by_contra notQuotable
    exact valueTest_misread (misread_of_read notQuotable (by decide) reads) same
  obtain ⟨rfl, rfl⟩ := eq_of_read quotable reads
  refine ⟨⟨notTest, quotable, fun w single => ?_⟩, rfl⟩
  rw [single, printTest] at same
  apply not_reserved_of_oneOf
  rwa [String.ofList_toList]

theorem quotable_of_puts {e : Expression} {found mid : List Char} {tag1 : Tag}
    (expression : Expression.standard e.source = .ok e)
    (reads : Quoted.read false '"' (escape false '"' e.source.toList ++ '"' :: rest)
      = some (found, mid))
    (puts : Puts Expression.standard tag testAttribute.toList found tag1) :
    Quotable '"' e.source.toList := by
  by_contra notQuotable
  unfold Puts at puts
  rw [if_pos String.ofList_toList] at puts
  obtain ⟨e', expression', -⟩ := puts
  -- either the text that is read or the one that was printed ends in a backslash
  rcases misread_of_read notQuotable (by decide) reads with ⟨before, after, -, rfl⟩
    | ⟨before, after, eq, -⟩
  · refine Expression.not_endsOpen_of_standard expression' ?_
    simp [Expression.EndsOpen]
  · rw [← String.ofList_toList (s := e.source), eq] at expression
    refine Expression.not_endsOpen_of_standard expression ?_
    simp [Expression.EndsOpen]

/-- Attributes are legible if what is read for them has the same conditions. -/
theorem legible_of_readAttributes (read : ∀ c ∈ constraints, c.Read)
    (readTest : ∀ e ∈ test, Expression.standard e.source = .ok e)
    (h : readAttributes Expression.standard left tag (printAttributes constraints test ++ rest)
      = .ok (tag', after))
    (same : tag'.constraints = tag.constraints ++ constraints) :
    (∀ c ∈ constraints, c.Legible) ∧ ∀ e ∈ test, Quotable '"' e.source.toList := by
  induction constraints generalizing tag with
  | nil =>
    refine ⟨by simp, fun e mem => ?_⟩
    obtain rfl : test = some e := mem
    rw [printAttributes_test, List.append_assoc] at h
    obtain ⟨found, tag1, mid, reads, puts, -⟩ := puts_of_readAttributes isName_test h
    exact quotable_of_puts (readTest e rfl) reads puts
  | cons c constraints ih =>
    obtain ⟨readHere, readLater⟩ := List.forall_mem_cons.1 read
    rw [printAttributes_cons, List.append_assoc] at h
    obtain ⟨found, tag1, mid, reads, puts, later⟩ := puts_of_readAttributes readHere.name h
    have notTest := not_test_of_puts readHere reads puts
    unfold Puts at puts
    rw [String.ofList_toList, if_neg notTest] at puts
    subst puts
    obtain ⟨text, -, written⟩ := attributes_of_read later
    obtain ⟨-, ⟨added, eq, -⟩, -⟩ := written.adds
    rw [same, List.append_assoc, List.append_cancel_left_eq, List.singleton_append,
      List.cons.injEq] at eq
    obtain ⟨here, rfl⟩ := eq
    have sameTest : valueTest found = c.test := congrArg Constraint.test here.symm
    obtain ⟨legible, rfl⟩ := legible_of_read notTest reads sameTest
    rw [← here] at later
    obtain ⟨legibleLater, legibleTest⟩ := ih readLater later (by rw [same]; simp)
    exact ⟨List.forall_mem_cons.2 ⟨legible, legibleLater⟩, legibleTest⟩

/-- A tag is legible if what is read for it asks the same. -/
theorem legible_of_readTag (standard : options.engine = Expression.standard)
    (read : tag.Read options)
    (h : readTag options (tag.type.toList ++ (printAttributes tag.constraints tag.test ++ rest))
      = .ok (tag', after))
    (same : tag'.constraints = tag.constraints) : tag.Legible := by
  have ends := endsName_printAttributes tag.constraints tag.test rest
  obtain ⟨c, others, eq⟩ := List.exists_cons_of_ne_nil read.type.nonempty
  have first : isNameChar c = true := read.type.chars c (by simp [eq])
  have trimmed : trimStart (tag.type.toList ++ (printAttributes tag.constraints tag.test ++ rest))
      = tag.type.toList ++ (printAttributes tag.constraints tag.test ++ rest) := by
    rw [eq]
    exact trimStart_cons (isSpace_of_isNameChar first) _
  unfold readTag at h
  rw [trimmed, takeWhile_name read.type.chars ends, dropWhile_name read.type.chars ends] at h
  dsimp only at h
  rw [if_pos read.allowed, standard] at h
  obtain ⟨constraints, test⟩ := legible_of_readAttributes read.constraints
    (standard_of_read standard read) h (by simpa using same)
  exact ⟨constraints, test⟩

end

end Pattern

end SpanSearch
