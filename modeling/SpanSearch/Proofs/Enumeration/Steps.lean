import SpanSearch.Proofs.Enumeration.Chain
import SpanSearch.Proofs.Enumeration.Readings
import SpanSearch.Proofs.Index.Entries

/-! # Steps of chains

What a round makes of chains: each chain that is the first of its span goes on by each separator and
element that are the first of theirs.
-/

namespace SpanSearch.Enumeration

open Search

/-- Whether an annotation is the first of its span among annotations. -/
def Foremost (annotations : List Annotation) (a : Annotation) : Prop :=
  annotations.find? (·.sameSpan a) = some a

/-- Whether a chain is the first of its span among chains. -/
def Visible (chains : List (List Annotation)) (members : List Annotation) : Prop :=
  chains.find? (fun others => (spanOf others).sameSpan (spanOf members)) = some members

/-- Whether an element begins where a separator ends that begins where a chain ends, all of them with
a token at least. -/
def Continues (separator element : Annotation → Prop) (members : List Annotation) (e : Annotation) :
    Prop :=
  ∃ s, separator s ∧ 0 < s.size ∧ s.start = (spanOf members).start + (spanOf members).size
    ∧ element e ∧ 0 < e.size ∧ e.start = s.start + s.size

variable {config : Config} {tokens : List Token} {parts : Parts} {chains : List (List Annotation)}
  {first number : Nat} {members members' : List Annotation} {type : String} {a : Annotation}

/-! ## What is filed -/

/-- The parts that are looked up, each under its type. -/
def Parts.roles (parts : Parts) : List (String × List Annotation) :=
  [(elementType, parts.elements), (endType, parts.ends), (separatorType, parts.separators),
    (endSeparatorType, parts.endSeparators)]

theorem Parts.nodup_roles (parts : Parts) : (parts.roles.map (·.1)).Nodup := by
  show [elementType, endType, separatorType, endSeparatorType].Nodup
  decide

/-- No part is looked up as a chain. -/
theorem Parts.ne_chainType {list : List Annotation} (role : (type, list) ∈ parts.roles) :
    type ≠ chainType := by
  have others : ∀ type ∈ [elementType, endType, separatorType, endSeparatorType],
      type ≠ chainType := by decide
  exact others type (List.mem_map_of_mem (f := Prod.fst) role)

/-- Under each of different types the first annotation of each span is filed. -/
theorem mem_entries_fileRoles {roles : List (String × List Annotation)} {index : Index}
    (distinct : (roles.map (·.1)).Nodup) (new : ∀ entry ∈ index.entries, entry.1 ∉ roles.map (·.1)) :
    (type, a) ∈ (roles.foldl (fun index role => index.fileAll role.1 role.2) index).entries
      ↔ (type, a) ∈ index.entries ∨ ∃ list, (type, list) ∈ roles ∧ Foremost list a := by
  induction roles generalizing index with
  | nil => simp
  | cons role roles ih =>
    obtain ⟨type', list⟩ := role
    simp only [List.map_cons, List.nodup_cons, List.mem_cons, not_or] at distinct new
    have filed {entry : String × Annotation} :
        entry ∈ (index.fileAll type' list).entries
          ↔ entry ∈ index.entries ∨ (entry.1 = type' ∧ Foremost list entry.2) :=
      Index.mem_entries_fileAll_iff fun entry mem => (new entry mem).1
    rw [List.foldl_cons, ih distinct.2, filed]
    · simp only [List.mem_cons, Prod.mk.injEq, or_and_right, exists_or, and_assoc, exists_eq_left,
        exists_and_left, or_assoc]
    · intro entry mem
      rcases filed.1 mem with mem | ⟨same, -⟩
      · exact (new entry mem).2
      · exact same ▸ distinct.1

theorem partsIndex_eq : partsIndex parts
    = parts.roles.foldl
        (fun index role => role.2.foldl (fun index a => (index.add .none role.1 a).2) index)
        Index.empty :=
  rfl

theorem entries_addRoles {roles : List (String × List Annotation)} {index index' : Index}
    (open_ : index.disposed = false) (same : index.entries = index'.entries) :
    (roles.foldl (fun index role => role.2.foldl (fun index a => (index.add .none role.1 a).2) index)
        index).entries
      = (roles.foldl (fun (index : Index) role => index.fileAll role.1 role.2) index').entries := by
  induction roles generalizing index index' with
  | nil => exact same
  | cons role roles ih =>
    exact ih (Index.disposed_addEach.trans open_) (Index.entries_addEach open_ same)

/-- Each part is filed under its type if it is the first of its span. -/
theorem mem_entries_partsIndex : (type, a) ∈ (partsIndex parts).entries
    ↔ ∃ list, (type, list) ∈ parts.roles ∧ Foremost list a := by
  rw [partsIndex_eq, entries_addRoles rfl rfl,
    mem_entries_fileRoles parts.nodup_roles (List.forall_mem_nil _)]
  exact or_iff_right List.not_mem_nil

theorem disposed_partsIndex : (partsIndex parts).disposed = false := by
  have still (roles : List (String × List Annotation)) (index : Index) :
      (roles.foldl (fun index role => role.2.foldl (fun index a => (index.add .none role.1 a).2) index)
        index).disposed = index.disposed := by
    induction roles generalizing index with
    | nil => rfl
    | cons role roles ih => exact (ih _).trans Index.disposed_addEach
  rw [partsIndex_eq, still]
  rfl

theorem tidy_partsIndex (bounded : ∀ a ∈ parts.annotations, a.Bounded) :
    (partsIndex parts).Tidy := by
  simp only [Parts.annotations, List.forall_mem_append] at bounded
  obtain ⟨⟨⟨⟨-, elements⟩, separators⟩, ends⟩, endSeparators⟩ := bounded
  exact (((Index.tidy_empty.addEach elements).addEach ends).addEach separators).addEach endSeparators

/-! ## Stand-ins -/

/-- The index in which a round looks annotations up. -/
def roundIndex (parts : Parts) (chains : List (List Annotation)) (first : Nat) : Index :=
  (partsIndex parts).addAll .none
    ((numbered chains first).map fun (number, members) => standIn number members)

theorem map_snd_numbered : (numbered chains first).map (·.2) = chains.drop first := by
  rw [numbered, List.map_drop, List.map_map]
  congr 1
  exact List.zipIdx_map_fst 0 chains

/-- The number of a chain tells which one it is. -/
theorem getElem?_of_mem_numbered (mem : (number, members) ∈ numbered chains first) :
    chains[number]? = some members := by
  obtain ⟨⟨members', number'⟩, listed, same⟩ := List.mem_map.1 (List.mem_of_mem_drop mem)
  obtain ⟨rfl, rfl⟩ := Prod.mk.inj same
  exact List.mem_zipIdx_iff_getElem?.1 listed

theorem standIn_inj {m n : Nat} (same : standIn m members = standIn n members') : m = n := by
  have texts : s!"enumeration.{m}" = s!"enumeration.{n}" :=
    Option.some.inj (congrArg Annotation.id same)
  have digits : Nat.toDigits 10 m = Nat.toDigits 10 n := by
    simpa [Nat.toList_repr] using congrArg String.toList texts
  rw [← @Nat.ofDigitChars_ten_toDigits m, digits, Nat.ofDigitChars_ten_toDigits]

/-- The chain of a stand-in is found again. -/
theorem membersOf_standIn (mem : (number, members) ∈ numbered chains first) :
    stepped.membersOf chains first (standIn number members) = some members := by
  unfold stepped.membersOf
  cases found : (numbered chains first).find? fun chain =>
      standIn chain.1 chain.2 == standIn number members with
  | none =>
    have self : (standIn number members == standIn number members) = true := beq_self_eq_true _
    exact absurd self (List.find?_eq_none.1 found (number, members) mem)
  | some other =>
    obtain ⟨number', members'⟩ := other
    have same := List.find?_some found
    obtain rfl := standIn_inj (eq_of_beq same)
    have listed := getElem?_of_mem_numbered (List.mem_of_find?_eq_some found)
    rw [getElem?_of_mem_numbered mem] at listed
    exact listed.symm

/-- The stand-ins that are filed are those of the visible chains. -/
theorem mem_entries_roundIndex : (type, a) ∈ (roundIndex parts chains first).entries
    ↔ (type, a) ∈ (partsIndex parts).entries
      ∨ type = chainType ∧ ∃ number members,
        (numbered chains first).find? (fun chain => (spanOf chain.2).sameSpan a)
            = some (number, members)
          ∧ a = standIn number members := by
  have same : ∀ a ∈ (numbered chains first).map fun (number, members) => standIn number members,
      a.type = chainType := by
    intro a mem
    obtain ⟨chain, -, rfl⟩ := List.mem_map.1 mem
    rfl
  have new : ∀ entry ∈ (partsIndex parts).entries, entry.1 ≠ chainType := by
    intro entry mem
    obtain ⟨list, role, -⟩ := mem_entries_partsIndex.1 mem
    exact Parts.ne_chainType role
  rw [roundIndex, Index.addAll_eq same, Index.entries_addEach disposed_partsIndex rfl,
    Index.mem_entries_fileAll_iff new, List.find?_map, Option.map_eq_some_iff]
  refine or_congr_right (and_congr_right fun _ => ?_)
  constructor
  · rintro ⟨⟨number, members⟩, found, rfl⟩
    exact ⟨number, members, found, rfl⟩
  · rintro ⟨number, members, found, rfl⟩
    exact ⟨(number, members), found, rfl⟩

/-- The visible chains are those whose stand-ins are filed. -/
theorem visible_iff : Visible (chains.drop first) members
    ↔ ∃ number, (numbered chains first).find?
        (fun chain => (spanOf chain.2).sameSpan (spanOf members)) = some (number, members) := by
  rw [Visible, ← map_snd_numbered, List.find?_map, Option.map_eq_some_iff]
  constructor
  · rintro ⟨⟨number, members⟩, found, rfl⟩
    exact ⟨number, found⟩
  · rintro ⟨number, found⟩
    exact ⟨(number, members), found, rfl⟩

theorem tidy_roundIndex (bounded : ∀ a ∈ parts.annotations, a.Bounded)
    (spans : ∀ members ∈ chains, (spanOf members).Bounded) :
    (roundIndex parts chains first).Tidy := by
  refine (tidy_partsIndex bounded).addAll Source.bounded_none fun a mem => ?_
  obtain ⟨⟨number, members⟩, listed, rfl⟩ := List.mem_map.1 mem
  exact spans members (List.mem_of_getElem? (getElem?_of_mem_numbered listed))

/-! ## Rounds -/

/-- Whether a chain takes part in a round: it is the first of its span among those that came last, has
a token at least, and begins within the tokens. -/
structure Ready (tokens : List Token) (chains : List (List Annotation)) (first : Nat)
    (members : List Annotation) : Prop where
  visible : Visible (chains.drop first) members
  solid : 0 < (spanOf members).size
  within : (spanOf members).start < tokens.length

/-- What a reading of the annotations of a round makes of its chain. -/
def extended (chains : List (List Annotation)) (first : Nat) :
    List Annotation → Option (List Annotation)
  | [chain] => stepped.membersOf chains first chain
  | [chain, _, element] => (stepped.membersOf chains first chain).map (· ++ [element])
  | _ => none

theorem mem_stepped {p : Pattern} (solid : SolidAll p.elements)
    (tidy : (roundIndex parts chains first).Tidy) :
    members ∈ stepped config tokens (partsIndex parts) p chains first
      ↔ ∃ read, extended chains first read = some members
        ∧ ∃ start < tokens.length, ∃ stop ≠ start,
          Reads (.forPattern config tokens (roundIndex parts chains first).filed p) p.elements
            start stop read := by
  have unfolded : stepped config tokens (partsIndex parts) p chains first
      = (find config tokens (roundIndex parts chains first).filed (fun _ => false) p).filterMap
          fun m => extended chains first m.annotations :=
    rfl
  simp only [unfolded, List.mem_filterMap, ← exists_mem_find tidy.lawful solid]
  constructor
  · rintro ⟨m, mem, made⟩
    exact ⟨_, made, m, mem, rfl⟩
  · rintro ⟨_, made, m, mem, rfl⟩
    exact ⟨m, mem, made⟩

theorem mem_filed_chain {start : Nat} : a ∈ (roundIndex parts chains first).filed chainType start
    ↔ ∃ number members,
      (numbered chains first).find? (fun chain => (spanOf chain.2).sameSpan (spanOf members))
          = some (number, members)
        ∧ a = standIn number members ∧ (spanOf members).start = start := by
  have others : ¬ (chainType, a) ∈ (partsIndex parts).entries := fun mem => by
    obtain ⟨list, role, -⟩ := mem_entries_partsIndex.1 mem
    exact Parts.ne_chainType role rfl
  rw [Index.mem_filed, mem_entries_roundIndex, or_iff_right others]
  constructor
  · rintro ⟨⟨-, number, members, found, rfl⟩, rfl⟩
    exact ⟨number, members, found, rfl, rfl⟩
  · rintro ⟨number, members, found, rfl, rfl⟩
    exact ⟨⟨rfl, number, members, found, rfl⟩, rfl⟩

/-- Under the type of a role the first annotations of their spans are found. -/
theorem mem_filed_role {list : List Annotation} {start : Nat} (role : (type, list) ∈ parts.roles) :
    a ∈ (roundIndex parts chains first).filed type start ↔ Foremost list a ∧ a.start = start := by
  rw [Index.mem_filed, mem_entries_roundIndex, mem_entries_partsIndex,
    or_iff_left fun chain => Parts.ne_chainType role chain.1]
  refine and_congr_left' ⟨?_, fun foremost => ⟨list, role, foremost⟩⟩
  rintro ⟨list', role', foremost⟩
  obtain ⟨-, rfl⟩ := Prod.mk.inj (List.inj_on_of_nodup_map parts.nodup_roles role role' rfl)
  exact foremost

theorem mem_filed_separator {start : Nat} :
    a ∈ (roundIndex parts chains first).filed separatorType start
      ↔ Foremost parts.separators a ∧ a.start = start :=
  mem_filed_role (by simp [Parts.roles])

theorem mem_filed_element {start : Nat} :
    a ∈ (roundIndex parts chains first).filed elementType start
      ↔ Foremost parts.elements a ∧ a.start = start :=
  mem_filed_role (by simp [Parts.roles])

theorem mem_filed_lastSeparator {start : Nat} :
    (a ∈ (roundIndex parts chains first).filed separatorType start
        ∨ a ∈ (roundIndex parts chains first).filed endSeparatorType start)
      ↔ (Foremost parts.separators a ∨ Foremost parts.endSeparators a) ∧ a.start = start := by
  have role : (endSeparatorType, parts.endSeparators) ∈ parts.roles := by simp [Parts.roles]
  rw [mem_filed_separator, mem_filed_role role, or_and_right]

theorem mem_filed_lastElement {start : Nat} :
    (a ∈ (roundIndex parts chains first).filed elementType start
        ∨ a ∈ (roundIndex parts chains first).filed endType start)
      ↔ (Foremost parts.elements a ∨ Foremost parts.ends a) ∧ a.start = start := by
  have role : (endType, parts.ends) ∈ parts.roles := by simp [Parts.roles]
  rw [mem_filed_element, mem_filed_role role, or_and_right]

theorem solid_stepPattern : SolidAll stepPattern.elements := by
  intro e mem
  simp only [stepPattern, tagOf, Element.walkList, Element.walk, List.cons_append, List.nil_append,
    List.mem_cons, List.not_mem_nil, or_false] at mem
  rcases mem with rfl | rfl | rfl <;> trivial

/-- A round makes of each chain that takes part all those that are longer by one step. -/
theorem mem_stepped_step (tidy : (roundIndex parts chains first).Tidy) :
    members ∈ stepped config tokens (partsIndex parts) stepPattern chains first
      ↔ ∃ front e, Ready tokens chains first front
        ∧ Continues (Foremost parts.separators) (Foremost parts.elements) front e
        ∧ members = front ++ [e] := by
  rw [mem_stepped solid_stepPattern tidy]
  constructor
  · rintro ⟨read, made, start, within, stop, moved, reads⟩
    obtain ⟨c, mem_c, size_c, _, after_c, rfl⟩ := reads_tagOf.1 reads
    obtain ⟨s, mem_s, size_s, _, after_s, rfl⟩ := reads_tagOf.1 after_c
    obtain ⟨e, mem_e, size_e, _, after_e, rfl⟩ := reads_tagOf.1 after_s
    obtain ⟨rfl, rfl⟩ := reads_nil.1 after_e
    obtain ⟨number, front, found, rfl, rfl⟩ := mem_filed_chain.1 mem_c
    obtain ⟨first_s, start_s⟩ := mem_filed_separator.1 mem_s
    obtain ⟨first_e, start_e⟩ := mem_filed_element.1 mem_e
    rw [extended, membersOf_standIn (List.mem_of_find?_eq_some found)] at made
    exact ⟨front, e, ⟨visible_iff.2 ⟨number, found⟩, size_c, within⟩,
      ⟨s, first_s, size_s, start_s, first_e, size_e, start_e⟩, (Option.some.inj made).symm⟩
  · rintro ⟨front, e, ready, ⟨s, first_s, size_s, start_s, first_e, size_e, start_e⟩, rfl⟩
    obtain ⟨number, found⟩ := visible_iff.1 ready.visible
    refine ⟨[standIn number front, s, e], ?_, (spanOf front).start, ready.within,
      e.start + e.size, by omega, ?_⟩
    · rw [extended, membersOf_standIn (List.mem_of_find?_eq_some found)]
      rfl
    · exact reads_tagOf.2 ⟨standIn number front, mem_filed_chain.2 ⟨number, front, found, rfl, rfl⟩,
        ready.solid, _,
        reads_tagOf.2 ⟨s, mem_filed_separator.2 ⟨first_s, start_s⟩, size_s, _,
          reads_tagOf.2 ⟨e, mem_filed_element.2 ⟨first_e, start_e⟩, size_e, _,
            reads_nil.2 ⟨rfl, rfl⟩, rfl⟩, rfl⟩, rfl⟩

theorem solid_lastPattern : SolidAll lastPattern.elements := by
  intro e mem
  simp only [lastPattern, tagOf, Element.walkList, Element.walk, List.cons_append, List.nil_append,
    List.append_nil, List.mem_cons, List.not_mem_nil, or_false] at mem
  rcases mem with rfl | rfl | rfl | rfl | rfl | rfl | rfl | rfl <;> trivial

/-- The closing round makes of each chain that takes part the chain itself and all those that are
longer by the last step. -/
theorem mem_stepped_last (tidy : (roundIndex parts chains first).Tidy) :
    members ∈ stepped config tokens (partsIndex parts) lastPattern chains first
      ↔ ∃ front, Ready tokens chains first front
        ∧ (members = front
          ∨ ∃ e, Continues (fun s => Foremost parts.separators s ∨ Foremost parts.endSeparators s)
              (fun e => Foremost parts.elements e ∨ Foremost parts.ends e) front e
            ∧ members = front ++ [e]) := by
  rw [mem_stepped solid_lastPattern tidy]
  constructor
  · rintro ⟨read, made, start, within, stop, moved, reads⟩
    obtain ⟨c, mem_c, size_c, _, after_c, rfl⟩ := reads_tagOf.1 reads
    obtain ⟨number, front, found, rfl, rfl⟩ := mem_filed_chain.1 mem_c
    have listed := List.mem_of_find?_eq_some found
    refine ⟨front, ⟨visible_iff.2 ⟨number, found⟩, size_c, within⟩, ?_⟩
    rcases reads_option.1 after_c with done | ⟨mid, _, _, -, taken, done, rfl⟩
    · obtain ⟨rfl, rfl⟩ := reads_nil.1 done
      rw [extended, membersOf_standIn listed] at made
      exact .inl (Option.some.inj made).symm
    · obtain ⟨s, mem_s, size_s, _, after_s, rfl⟩ := reads_eitherTag.1 taken
      obtain ⟨e, mem_e, size_e, _, after_e, rfl⟩ := reads_eitherTag.1 after_s
      obtain ⟨rfl, rfl⟩ := reads_nil.1 after_e
      obtain ⟨rfl, rfl⟩ := reads_nil.1 done
      rw [List.append_nil, extended, membersOf_standIn listed] at made
      obtain ⟨first_s, start_s⟩ := mem_filed_lastSeparator.1 mem_s
      obtain ⟨first_e, start_e⟩ := mem_filed_lastElement.1 mem_e
      exact .inr ⟨e, ⟨s, first_s, size_s, start_s, first_e, size_e, start_e⟩,
        (Option.some.inj made).symm⟩
  · rintro ⟨front, ready, last⟩
    obtain ⟨number, found⟩ := visible_iff.1 ready.visible
    have listed := List.mem_of_find?_eq_some found
    have filed : standIn number front
        ∈ (roundIndex parts chains first).filed chainType (spanOf front).start :=
      mem_filed_chain.2 ⟨number, front, found, rfl, rfl⟩
    have solid := ready.solid
    rcases last with rfl | ⟨e, ⟨s, first_s, size_s, start_s, first_e, size_e, start_e⟩, rfl⟩
    · refine ⟨[standIn number members], by rw [extended, membersOf_standIn listed],
        (spanOf members).start, ready.within,
        (spanOf members).start + (spanOf members).size, by omega, ?_⟩
      exact reads_tagOf.2 ⟨_, filed, solid, _, reads_option.2 (.inl (reads_nil.2 ⟨rfl, rfl⟩)), rfl⟩
    · refine ⟨[standIn number front, s, e], by rw [extended, membersOf_standIn listed]; rfl,
        (spanOf front).start, ready.within, e.start + e.size, by omega, ?_⟩
      have step : Reads
          (.forPattern config tokens (roundIndex parts chains first).filed lastPattern)
          [.choice [tagOf separatorType, tagOf endSeparatorType] .plain,
            .choice [tagOf elementType, tagOf endType] .plain]
          ((spanOf front).start + (spanOf front).size) (e.start + e.size) [s, e] :=
        reads_eitherTag.2 ⟨s, mem_filed_lastSeparator.2 ⟨first_s, start_s⟩, size_s, _,
          reads_eitherTag.2 ⟨e, mem_filed_lastElement.2 ⟨first_e, start_e⟩, size_e, _,
            reads_nil.2 ⟨rfl, rfl⟩, rfl⟩, rfl⟩
      have moved : (spanOf front).start + (spanOf front).size ≠ e.start + e.size := by omega
      exact reads_tagOf.2 ⟨_, filed, solid, _,
        reads_option.2 (.inr ⟨_, _, _, moved, step, reads_nil.2 ⟨rfl, rfl⟩, rfl⟩), rfl⟩

end SpanSearch.Enumeration
