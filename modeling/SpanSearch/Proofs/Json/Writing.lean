import SpanSearch.Json.Printer

/-! # How JSON is written

Between the parts of JSON there may be white space. Values that are printed on one line have none, and
those that are printed over several lines have some, but both are ways to write the same.
-/

namespace SpanSearch.Json

/-- Whether a text is nothing but white space. -/
def Blank (cs : List Char) : Prop := ∀ c ∈ cs, isBlank c = true

/-- Whether a text may stand before an item, of which one tells whether it is the first. -/
inductive Separates : Bool → List Char → Prop
  | first : Separates true []
  | comma {blank : List Char} (space : Blank blank) : Separates false (blank ++ [','])

mutual

/-- Whether a text writes a value. -/
inductive Writes : Tree → List Char → Prop
  | bool (b : Bool) : Writes (.bool b) (Tree.printBool b)
  | number (n : Nat) : Writes (.number n) (Tree.printNumber n)
  | text (s : String) : Writes (.text s) (quote s)
  | list {items : List Tree} {cs blank : List Char} (inside : WritesItems true items cs)
      (space : Blank blank) : Writes (.list items) ('[' :: (cs ++ (blank ++ [']'])))
  | object {members : List (String × Tree)} {cs blank : List Char}
      (inside : WritesMembers true members cs) (space : Blank blank) :
      Writes (.object members) ('{' :: (cs ++ (blank ++ ['}'])))

/-- Whether a text writes the items of a list, of which one tells whether they are all of them. -/
inductive WritesItems : Bool → List Tree → List Char → Prop
  | nil {first : Bool} : WritesItems first [] []
  | cons {first : Bool} {item : Tree} {items : List Tree} {separator blank cs cs' : List Char}
      (separates : Separates first separator) (space : Blank blank) (written : Writes item cs)
      (others : WritesItems false items cs') :
      WritesItems first (item :: items) (separator ++ (blank ++ (cs ++ cs')))

/-- Whether a text writes the members of an object, of which one tells whether they are all of
them. -/
inductive WritesMembers : Bool → List (String × Tree) → List Char → Prop
  | nil {first : Bool} : WritesMembers first [] []
  | cons {first : Bool} {key : String} {value : Tree} {members : List (String × Tree)}
      {separator before colon blank cs cs' : List Char} (separates : Separates first separator)
      (spaceBefore : Blank before) (spaceColon : Blank colon) (space : Blank blank)
      (written : Writes value cs) (others : WritesMembers false members cs') :
      WritesMembers first ((key, value) :: members)
        (separator ++ (before ++ (quote key ++ (colon ++ ':' :: (blank ++ (cs ++ cs'))))))

end

variable {items : List Tree} {members : List (String × Tree)} {cs blank : List Char}

theorem blank_nil : Blank [] := nofun

theorem blank_newLine (depth : Nat) : Blank (Tree.newLine depth) := by
  intro c mem
  rcases List.mem_cons.1 mem with rfl | mem
  · rfl
  · rw [List.eq_of_mem_replicate mem]
    rfl

theorem blank_space : Blank [' '] := by simp [Blank, isBlank]

/-! ## What is printed -/

/-- Items that come after another one have a comma in front. -/
theorem WritesItems.comma (written : WritesItems true items cs) (some : items ≠ []) :
    WritesItems false items (',' :: cs) := by
  cases written with
  | nil => exact absurd rfl some
  | cons separates space written others =>
    cases separates
    exact .cons (.comma blank_nil) space written others

theorem WritesMembers.comma (written : WritesMembers true members cs) (some : members ≠ []) :
    WritesMembers false members (',' :: cs) := by
  cases written with
  | nil => exact absurd rfl some
  | cons separates spaceBefore spaceColon space written others =>
    cases separates
    exact .cons (.comma blank_nil) spaceBefore spaceColon space written others

namespace Tree

mutual

/-- A value on one line is written. -/
theorem writes_printCompact : (t : Tree) → Writes t t.printCompact
  | bool b => .bool b
  | number n => .number n
  | text s => .text s
  | list items => .list (writes_printItems items) blank_nil
  | object members => .object (writes_printMembers members) blank_nil

theorem writes_printItems : (items : List Tree) → WritesItems true items (printItems items)
  | [] => .nil
  | [item] => by
    have written := WritesItems.cons .first blank_nil (writes_printCompact item) .nil
    simpa only [List.nil_append, List.append_nil, printItems] using written
  | item :: other :: items => by
    have others := (writes_printItems (other :: items)).comma (List.cons_ne_nil _ _)
    exact .cons .first blank_nil (writes_printCompact item) others

theorem writes_printMembers :
    (members : List (String × Tree)) → WritesMembers true members (printMembers members)
  | [] => .nil
  | [(key, value)] => by
    have written : WritesMembers true [(key, value)] _ :=
      .cons .first blank_nil blank_nil blank_nil (writes_printCompact value) .nil
    simpa only [List.nil_append, List.append_nil, printMembers] using written
  | (key, value) :: other :: members => by
    have others := (writes_printMembers (other :: members)).comma (List.cons_ne_nil _ _)
    have written : WritesMembers true ((key, value) :: other :: members) _ :=
      .cons .first blank_nil blank_nil blank_nil (writes_printCompact value) others
    simpa only [List.nil_append, printMembers, List.append_assoc, List.cons_append] using written

end

mutual

/-- A value over several lines is written. -/
theorem writes_printPretty : (depth : Nat) → (t : Tree) → Writes t (t.printPretty depth)
  | _, bool b => .bool b
  | _, number n => .number n
  | _, text s => .text s
  | _, list [] => .list .nil blank_nil
  | depth, list (item :: items) => by
    have written := Writes.list (writes_printItemLines (depth + 1) (item :: items))
      (blank_newLine depth)
    simpa only [printPretty, List.append_assoc, List.cons_append] using written
  | _, object [] => .object .nil blank_nil
  | depth, object (member :: members) => by
    have written := Writes.object (writes_printMemberLines (depth + 1) (member :: members))
      (blank_newLine depth)
    simpa only [printPretty, List.append_assoc, List.cons_append] using written

theorem writes_printItemLines :
    (depth : Nat) → (items : List Tree) → WritesItems true items (printItemLines depth items)
  | _, [] => .nil
  | depth, [item] => by
    have written := WritesItems.cons .first (blank_newLine depth) (writes_printPretty depth item) .nil
    simpa only [List.nil_append, List.append_nil, printItemLines] using written
  | depth, item :: other :: items => by
    have others := (writes_printItemLines depth (other :: items)).comma (List.cons_ne_nil _ _)
    have written := WritesItems.cons .first (blank_newLine depth) (writes_printPretty depth item)
      others
    simpa only [List.nil_append, printItemLines, List.append_assoc] using written

theorem writes_printMemberLines : (depth : Nat) → (members : List (String × Tree)) →
    WritesMembers true members (printMemberLines depth members)
  | _, [] => .nil
  | depth, [(key, value)] => by
    have written : WritesMembers true [(key, value)] _ :=
      .cons .first (blank_newLine depth) blank_nil blank_space (writes_printPretty depth value) .nil
    simpa only [List.nil_append, List.append_nil, printMemberLines, List.append_assoc,
      List.cons_append] using written
  | depth, (key, value) :: other :: members => by
    have others := (writes_printMemberLines depth (other :: members)).comma (List.cons_ne_nil _ _)
    have written : WritesMembers true ((key, value) :: other :: members) _ :=
      .cons .first (blank_newLine depth) blank_nil blank_space (writes_printPretty depth value)
        others
    simpa only [List.nil_append, printMemberLines, List.append_assoc, List.cons_append] using written

end

/-- What is printed writes the value, whether on one line or over several. -/
theorem writes_render (compact : Bool) (t : Tree) : Writes t (t.render compact).toList := by
  rw [render, String.toList_ofList]
  split
  · exact writes_printCompact t
  · exact writes_printPretty 0 t

end Tree

end SpanSearch.Json
