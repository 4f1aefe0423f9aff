import Mathlib.Data.List.Forall2
import SpanSearch.Proofs.Json.Reading

/-! # How written lists, tables and records are read

A list is read where its items are, a table where its values are, and a record where its members fill
its fields. Fields that need not be there are read as well as they are left out.
-/

namespace SpanSearch.Json

variable {α β σ : Type} {t : Tree} {items : List Tree} {members : List (String × Tree)}
  {blank separator cs rest : List Char} {c : Char} {first : Bool} {key : String} {fuel : Nat}

theorem Reads.map {read : Reader α} {value : α} (reads : Reads read t value) (f : α → β) :
    Reads (Reader.map f read) t (f value) := by
  intro blank cs rest space written ends
  rw [Reader.map, reads space written ends]

theorem Reads.at {read : Reader α} {value : α} (reads : Reads read t value) (step : Step) :
    Reads (Reader.at step read) t value := by
  intro blank cs rest space written ends
  rw [Reader.at, reads space written ends]

/-- A value starts with a character that neither is white space nor closes a list. -/
theorem Writes.starts (written : Writes t cs) :
    ∃ c rest, cs = c :: rest ∧ isBlank c = false ∧ c ≠ ']' := by
  cases written with
  | bool b =>
    cases b with
    | true => exact ⟨'t', "rue".toList, rfl, rfl, by decide⟩
    | false => exact ⟨'f', "alse".toList, rfl, rfl, by decide⟩
  | number n =>
    obtain ⟨c, cs, eq, digit⟩ := printNumber_cons n
    refine ⟨c, cs, eq, Bool.eq_false_iff.2 fun blank => ?_, ?_⟩
    · rw [not_digit_of_isBlank blank] at digit
      cases digit
    · rintro rfl
      exact absurd digit (by decide)
  | text s => exact ⟨'"', _, rfl, rfl, by decide⟩
  | list inside space => exact ⟨'[', _, rfl, rfl, by decide⟩
  | object inside space => exact ⟨'{', _, rfl, rfl, by decide⟩

theorem Separates.ends (separates : Separates false separator) (rest : List Char) :
    Ends (separator ++ rest) := by
  cases separates with
  | comma space =>
    rw [List.append_assoc]
    exact space.ends (ends_cons (.inr (.inl rfl)) rest)

/-! ## Lists -/

theorem nextItem_separates (separates : Separates first separator) (space : Blank blank)
    (solid : isBlank c = false) (other : c ≠ ']') (cs : List Char) :
    nextItem first (separator ++ (blank ++ c :: cs)) = .ok (true, c :: cs) := by
  cases separates with
  | first =>
    rw [List.nil_append, nextItem, skipBlank_append space, skipBlank_cons solid]
    simp [other]
  | comma before =>
    rw [List.append_assoc, nextItem, skipBlank_append before, List.cons_append, List.nil_append,
      skipBlank_cons (by decide)]
    simp [skipBlank_append space, skipBlank_cons solid, other]

theorem nextItem_closing (space : Blank blank) (first : Bool) (rest : List Char) :
    nextItem first (blank ++ ']' :: rest) = .ok (false, ']' :: rest) := by
  rw [nextItem, skipBlank_append space, skipBlank_cons (by decide)]
  rfl

theorem WritesItems.ends (inside : WritesItems false items cs) (space : Blank blank)
    (rest : List Char) : Ends (cs ++ (blank ++ ']' :: rest)) := by
  cases inside with
  | nil => exact space.ends (ends_cons (.inr (.inr (.inl rfl))) rest)
  | cons separates =>
    rw [List.append_assoc]
    exact separates.ends _

theorem WritesItems.length_le (inside : WritesItems first items cs) : items.length ≤ cs.length := by
  induction items generalizing first cs with
  | nil => exact Nat.zero_le _
  | cons item items ih =>
    cases inside with
    | cons separates space written others =>
      obtain ⟨c, rest, rfl, -⟩ := written.starts
      have := ih others
      simp only [List.length_append, List.length_cons]
      omega

/-- The items of a list are read one after the other, up to the closing bracket. -/
theorem readItems_written {item : Reader α} {values : List α}
    (reads : List.Forall₂ (Reads item) items values) {n : Nat}
    (inside : WritesItems (n == 0) items cs) (enough : items.length < fuel) (space : Blank blank)
    (rest : List Char) :
    readItems item fuel n (cs ++ (blank ++ ']' :: rest)) = .ok (values, rest) := by
  induction reads generalizing n cs fuel with
  | nil =>
    cases inside
    obtain ⟨fuel, rfl⟩ := Nat.exists_eq_succ_of_ne_zero (Nat.ne_of_gt enough)
    simp only [readItems, List.nil_append, nextItem_closing space, List.drop_one, List.tail_cons]
  | cons read reads ih =>
    obtain ⟨fuel, rfl⟩ := Nat.exists_eq_succ_of_ne_zero (Nat.ne_of_gt (Nat.zero_lt_of_lt enough))
    cases inside with
    | cons separates before written others =>
      obtain ⟨c, cs, rfl, solid, other⟩ := written.starts
      have here := (read.at (.index n)) blank_nil written (others.ends space rest)
      have after := ih (n := n + 1) others (Nat.lt_of_succ_lt_succ enough)
      simp only [List.nil_append, List.cons_append] at here
      simp only [readItems, List.append_assoc, List.cons_append,
        nextItem_separates separates before solid other, here, Reader.map, after]

/-- What stands between brackets, in front of what follows them, is long enough for its items. -/
theorem closed_append {n : Nat} (few : n ≤ cs.length) (gap : List Char) (closing : Char)
    (rest : List Char) :
    cs ++ (gap ++ [closing]) ++ rest = cs ++ (gap ++ closing :: rest)
      ∧ n < (cs ++ (gap ++ closing :: rest)).length + 1 := by
  constructor
  · simp only [List.append_assoc, List.cons_append, List.nil_append]
  · rw [List.length_append]
    omega

/-- A list of what is read item by item. -/
theorem reads_list {item : Reader α} {values : List α}
    (reads : List.Forall₂ (Reads item) items values) :
    Reads (Reader.list item) (.list items) values := by
  intro blank cs rest space written ends
  cases written with
  | @list _ cs gap inside inner =>
    obtain ⟨shape, enough⟩ := closed_append inside.length_le gap ']' rest
    rw [List.cons_append, Reader.list, skipBlank_append space, skipBlank_cons (by decide), shape]
    exact readItems_written (n := 0) reads inside enough inner rest

/-! ## Tables -/

theorem nextKey_separates (separates : Separates first separator) (space : Blank blank)
    (key : String) (rest : List Char) :
    nextKey first (separator ++ (blank ++ (quote key ++ rest))) = .ok (some key, rest) := by
  have read (rest : List Char) :
      nextKey.readKey '"' (key.toList.flatMap escapeChar ++ '"' :: rest) = .ok (some key, rest) := by
    simp [nextKey.readKey, Reader.map, readText_escaped]
  rw [quote_append]
  cases separates with
  | first =>
    rw [List.nil_append, nextKey, skipBlank_append space, skipBlank_cons (by decide)]
    exact read rest
  | comma before =>
    rw [List.append_assoc, nextKey, skipBlank_append before, List.cons_append, List.nil_append,
      skipBlank_cons (by decide)]
    simp only [skipBlank_append space, skipBlank_cons (c := '"') (by decide)]
    exact read rest

theorem nextKey_closing (space : Blank blank) (first : Bool) (rest : List Char) :
    nextKey first (blank ++ '}' :: rest) = .ok (none, rest) := by
  rw [nextKey, skipBlank_append space, skipBlank_cons (by decide)]
  rfl

theorem readColon_written (space : Blank blank) (rest : List Char) :
    readColon (blank ++ ':' :: rest) = .ok rest := by
  rw [readColon, skipBlank_append space, skipBlank_cons (by decide)]
  rfl

theorem WritesMembers.ends (inside : WritesMembers false members cs) (space : Blank blank)
    (rest : List Char) : Ends (cs ++ (blank ++ '}' :: rest)) := by
  cases inside with
  | nil => exact space.ends (ends_cons (.inr (.inr (.inr rfl))) rest)
  | cons separates =>
    rw [List.append_assoc]
    exact separates.ends _

theorem WritesMembers.length_le (inside : WritesMembers first members cs) :
    members.length ≤ cs.length := by
  induction members generalizing first cs with
  | nil => exact Nat.zero_le _
  | cons member members ih =>
    cases inside with
    | cons separates before colon space written others =>
      have := ih others
      simp only [List.length_append, List.length_cons]
      omega

/-- The values of the members of an object are put into the table under their keys. -/
theorem readMembers_written {value : Reader α} {entries : List (String × α)}
    (reads : List.Forall₂ (fun m e => m.1 = e.1 ∧ Reads value m.2 e.2) members entries)
    (inside : WritesMembers first members cs) (enough : members.length < fuel)
    (space : Blank blank) (found : Table α) (rest : List Char) :
    readMembers value fuel first found (cs ++ (blank ++ '}' :: rest))
      = .ok (entries.foldl (fun table e => table.insert e.1 e.2) found, rest) := by
  induction reads generalizing first cs fuel found with
  | nil =>
    cases inside
    obtain ⟨fuel, rfl⟩ := Nat.exists_eq_succ_of_ne_zero (Nat.ne_of_gt enough)
    simp only [readMembers, List.nil_append, nextKey_closing space, List.foldl_nil]
  | cons read reads ih =>
    obtain ⟨fuel, rfl⟩ := Nat.exists_eq_succ_of_ne_zero (Nat.ne_of_gt (Nat.zero_lt_of_lt enough))
    obtain ⟨same, read⟩ := read
    cases inside with
    | @cons _ key _ _ _ _ _ _ _ _ separates before colon inner written others =>
      have here := (read.at (.key key)) inner written (others.ends space rest)
      have after := ih others (Nat.lt_of_succ_lt_succ enough)
      simp only [readMembers, List.append_assoc, List.cons_append,
        nextKey_separates separates before, readColon_written colon, here, after,
        List.foldl_cons, ← same]

/-- A table of what is read value by value. -/
theorem reads_table {value : Reader α} {entries : List (String × α)}
    (reads : List.Forall₂ (fun m e => m.1 = e.1 ∧ Reads value m.2 e.2) members entries) :
    Reads (Reader.table value) (.object members) (Table.ofList entries) := by
  intro blank cs rest space written ends
  cases written with
  | @object _ cs gap inside inner =>
    obtain ⟨shape, enough⟩ := closed_append inside.length_le gap '}' rest
    rw [List.cons_append, Reader.table, skipBlank_append space, skipBlank_cons (by decide), shape]
    exact readMembers_written reads inside enough inner .empty rest

/-! ## Records -/

/-- Whether members fill the fields of a record, none of which has been filled before, so that it
becomes another one. -/
inductive Fills (fields : List (RecordField σ)) :
    List String → σ → List (String × Tree) → σ → Prop
  | done {seen : List String} {record : σ}
      (complete : ∀ f ∈ fields, f.required = true → f.name ∈ seen) :
      Fills fields seen record [] record
  | member {seen : List String} {record out : σ} {key : String} {value : Tree}
      {members : List (String × Tree)} {field : RecordField σ} {change : σ → σ}
      (found : fields.find? (·.name == key) = some field) (new : key ∉ seen)
      (reads : Reads field.read value change)
      (others : Fills fields (key :: seen) (change record) members out) :
      Fills fields seen record ((key, value) :: members) out

variable {fields : List (RecordField σ)} {seen seen' : List String} {record out : σ}

/-- Fields that need not be filled may as well not have been filled before. -/
theorem Fills.forget (fills : Fills fields seen record members out) (fewer : seen' ⊆ seen)
    (kept : ∀ f ∈ fields, f.required = true → f.name ∈ seen → f.name ∈ seen') :
    Fills fields seen' record members out := by
  induction fills generalizing seen' with
  | done complete =>
    exact .done fun f mem required => kept f mem required (complete f mem required)
  | @member seen _ _ key _ _ _ _ found new reads others ih =>
    refine .member found (fun mem => new (fewer mem)) reads (ih ?_ ?_)
    · exact List.cons_subset_cons key fewer
    · intro f mem required done
      rcases List.mem_cons.1 done with same | done
      · exact same ▸ List.mem_cons_self
      · exact List.mem_cons_of_mem _ (kept f mem required done)

/-- A field that need not be filled is left out where the record stays as it is. -/
theorem Fills.optional (key : String) (change : σ → σ) {member : List (String × Tree)}
    {field : RecordField σ}
    (given : member = [] ∧ change record = record
      ∨ ∃ value, member = [(key, value)] ∧ Reads field.read value change)
    (found : fields.find? (·.name == key) = some field) (new : key ∉ seen)
    (optional : ∀ f ∈ fields, f.required = true → f.name ≠ key)
    (others : Fills fields (key :: seen) (change record) members out) :
    Fills fields seen record (member ++ members) out := by
  rcases given with ⟨rfl, same⟩ | ⟨value, rfl, reads⟩
  · rw [same] at others
    refine others.forget (List.subset_cons_self key seen) fun f mem required done => ?_
    exact (List.mem_cons.1 done).resolve_left (optional f mem required)
  · exact .member found new reads others

/-- The fields of a record are read one after the other, up to the closing brace. -/
theorem readFields_written (fills : Fills fields seen record members out)
    (inside : WritesMembers first members cs) (enough : members.length < fuel)
    (space : Blank blank) (rest : List Char) :
    readFields fields fuel first seen record (cs ++ (blank ++ '}' :: rest)) = .ok (out, rest) := by
  induction fills generalizing first cs fuel with
  | done complete =>
    cases inside
    obtain ⟨fuel, rfl⟩ := Nat.exists_eq_succ_of_ne_zero (Nat.ne_of_gt enough)
    simp only [readFields, List.nil_append, nextKey_closing space]
    refine if_pos (List.all_eq_true.2 fun f mem => ?_)
    cases required : f.required with
    | false => rfl
    | true => simpa using complete f mem required
  | @member seen _ _ key _ _ _ _ found new reads others ih =>
    obtain ⟨fuel, rfl⟩ := Nat.exists_eq_succ_of_ne_zero (Nat.ne_of_gt (Nat.zero_lt_of_lt enough))
    cases inside with
    | cons separates before colon inner written behind =>
      have here := (reads.at (.key key)) inner written (behind.ends space rest)
      have after := ih behind (Nat.lt_of_succ_lt_succ enough)
      have unseen : seen.contains key = false := by simpa using new
      simp only [readFields, readMember, List.append_assoc, List.cons_append, found, unseen,
        nextKey_separates separates before, readColon_written colon, here, after, Reader.map,
        Bool.false_eq_true, if_false]

/-- A record whose fields are filled. -/
theorem reads_record {initial : σ} (fills : Fills fields [] initial members out) :
    Reads (Reader.record fields initial) (.object members) out := by
  intro blank cs rest space written ends
  cases written with
  | @object _ cs gap inside inner =>
    obtain ⟨shape, enough⟩ := closed_append inside.length_le gap '}' rest
    rw [List.cons_append, Reader.record, skipBlank_append space, skipBlank_cons (by decide), shape]
    exact readFields_written fills inside enough inner rest

end SpanSearch.Json
