import SpanSearch.Json.Records
import SpanSearch.Proofs.Json.Members

/-! # Records are read as they were written

What is written of a configuration, an annotation, a token or a document fills its fields again, those
that are left out included, so it is read as what it was, however it was printed.
-/

namespace SpanSearch

open Json

/-! ## Tables and sets -/

namespace Table

variable {α : Type} {entries : List (String × α)} {key : String} {value : α}

/-- A key beyond all others is put at the end. -/
theorem insertEntry_above (above : ∀ e ∈ entries, e.1 < key) :
    insertEntry key value entries = entries ++ [(key, value)] := by
  induction entries with
  | nil => rfl
  | cons e entries ih =>
    obtain ⟨less, above⟩ := List.forall_mem_cons.1 above
    have other : key ≠ e.1 := (String.ne_of_lt less).symm
    rw [insertEntry, if_neg other, if_neg (String.lt_asymm less), ih above, List.cons_append]

theorem foldl_insert_above (table : Table α) (ascending : Ascending (table.entries ++ entries)) :
    (entries.foldl (fun table e => table.insert e.1 e.2) table).entries
      = table.entries ++ entries := by
  induction entries generalizing table with
  | nil => rw [List.foldl_nil, List.append_nil]
  | cons e entries ih =>
    have inserted : (table.insert e.1 e.2).entries = table.entries ++ [e] :=
      insertEntry_above fun d mem =>
        (List.pairwise_append.1 ascending).2.2 d mem e List.mem_cons_self
    rw [List.foldl_cons, ih, inserted, List.append_assoc, List.singleton_append]
    rwa [inserted, List.append_assoc, List.singleton_append]

theorem eq_of_entries {table table' : Table α} (same : table.entries = table'.entries) :
    table = table' := by
  cases table
  cases table'
  cases same
  rfl

theorem eq_empty_of_isEmpty {table : Table α} (none : table.isEmpty = true) : table = .empty :=
  eq_of_entries (List.isEmpty_iff.1 none)

/-- A table is that of its entries. -/
theorem ofList_entries (table : Table α) : ofList table.entries = table :=
  eq_of_entries (foldl_insert_above .empty table.ascending)

end Table

/-- A set is that of its texts. -/
theorem TextSet.ofTexts_keys (set : TextSet) : TextSet.ofTexts set.keys = set := by
  rw [ofTexts, Table.keys, List.foldl_map]
  exact Table.ofList_entries set

/-! ## Configurations -/

/-- Whether the numbers of a configuration are words. -/
def Config.InWords (config : Config) : Prop :=
  config.cacheCapacity < Offset.limit ∧ config.regexTokens < Offset.limit
    ∧ config.enumerationRounds < Offset.limit

instance (config : Config) : Decidable config.InWords := inferInstanceAs (Decidable (_ ∧ _))

theorem Config.reads {config : Config} (words : config.InWords) :
    Reads Config.read config.toTree config := by
  obtain ⟨capacity, tokens, rounds⟩ := words
  refine reads_record ?_
  refine .member rfl (by decide) ((reads_boolean _).map _) ?_
  refine .member rfl (by decide) ((reads_natural capacity).map _) ?_
  refine .member rfl (by decide) ((reads_natural tokens).map _) ?_
  refine .member rfl (by decide) ((reads_text _).map _) ?_
  refine .member rfl (by decide) ((reads_natural rounds).map _) ?_
  exact .done (by decide)

/-! ## Annotations -/

theorem Attributes.reads (attributes : Attributes) :
    Reads (Reader.table Reader.text) attributes.toTree attributes := by
  have values : List.Forall₂ (fun m e => m.1 = e.1 ∧ Reads Reader.text m.2 e.2)
      (attributes.entries.map fun e => (e.1, Tree.text e.2)) attributes.entries := by
    rw [List.forall₂_map_left_iff]
    exact List.forall₂_same.2 fun e _ => ⟨rfl, reads_text e.2⟩
  have read := reads_table values
  rwa [Table.ofList_entries] at read

/-- Whether the numbers of an annotation are words. -/
def Annotation.InWords (a : Annotation) : Prop := a.start < Offset.limit ∧ a.size < Offset.limit

instance (a : Annotation) : Decidable a.InWords := inferInstanceAs (Decidable (_ ∧ _))

theorem Annotation.reads {a : Annotation} (words : a.InWords) :
    Reads Annotation.read a.toTree a := by
  obtain ⟨id, type, start, size, attributes⟩ := a
  obtain ⟨startWord, sizeWord⟩ := words
  refine reads_record ?_
  simp only [List.append_assoc, List.cons_append, List.nil_append]
  refine .optional "@id" (fun a => { a with id := id }) ?_ rfl (by decide) (by decide) ?_
  · cases id with
    | none => exact .inl ⟨rfl, rfl⟩
    | some id => exact .inr ⟨_, rfl, (reads_optionalText id).map _⟩
  refine .member rfl (by decide) ((reads_text type).map _) ?_
  refine .member rfl (by decide) ((reads_natural startWord).map _) ?_
  refine .member rfl (by decide) ((reads_natural sizeWord).map _) ?_
  rw [← List.append_nil (ite ..)]
  refine .optional "attributes" (fun a => { a with attributes := attributes }) ?_ rfl
    (by decide) (by decide) ?_
  · cases isEmpty : attributes.isEmpty with
    | true =>
      cases Table.eq_empty_of_isEmpty isEmpty
      exact .inl ⟨rfl, rfl⟩
    | false => exact .inr ⟨_, if_neg Bool.false_ne_true, attributes.reads.map _⟩
  exact .done (by decide)

/-! ## Tokens -/

theorem Token.reads (token : Token) : Reads Token.read token.toTree token := by
  obtain ⟨text, space, flags⟩ := token
  refine reads_record ?_
  simp only [List.cons_append, List.nil_append]
  refine .member rfl (by decide) ((reads_text text).map _) ?_
  refine .optional "whitespace" (fun token => { token with space := space }) ?_ rfl
    (by decide) (by decide) ?_
  · cases isEmpty : space.isEmpty with
    | true =>
      cases String.isEmpty_iff.1 isEmpty
      exact .inl ⟨rfl, rfl⟩
    | false => exact .inr ⟨_, if_neg Bool.false_ne_true, (reads_text space).map _⟩
  rw [← List.append_nil (ite ..)]
  refine .optional "flags" (fun token => { token with flags := flags }) ?_ rfl
    (by decide) (by decide) ?_
  · cases isEmpty : flags.isEmpty with
    | true =>
      cases Table.eq_empty_of_isEmpty isEmpty
      exact .inl ⟨rfl, rfl⟩
    | false =>
      have texts : List.Forall₂ (Reads Reader.text) (flags.keys.map Tree.text) flags.keys := by
        rw [List.forall₂_map_left_iff]
        exact List.forall₂_same.2 fun flag _ => reads_text flag
      have read := (reads_list texts).map fun flags (token : Token) =>
        { token with flags := TextSet.ofTexts flags }
      rw [TextSet.ofTexts_keys] at read
      exact .inr ⟨_, if_neg Bool.false_ne_true, read⟩
  exact .done (by decide)

/-! ## Documents -/

theorem Document.reads {d : Document} (words : ∀ a ∈ d.annotations, a.InWords) :
    Reads Document.read d.toTree { d with tokenizer := .standard } := by
  have tokens : List.Forall₂ (Reads Token.read) (d.tokens.map Token.toTree) d.tokens := by
    rw [List.forall₂_map_left_iff]
    exact List.forall₂_same.2 fun token _ => token.reads
  have annotations :
      List.Forall₂ (Reads Annotation.read) (d.annotations.map Annotation.toTree) d.annotations := by
    rw [List.forall₂_map_left_iff]
    exact List.forall₂_same.2 fun a mem => Annotation.reads (words a mem)
  refine reads_record ?_
  refine .member rfl (by decide) ((reads_list tokens).map _) ?_
  refine .member rfl (by decide) ((reads_list annotations).map _) ?_
  exact .done (by decide)

/-! ## Printing and parsing -/

namespace Json

/-- A printed value is parsed as what it is read as. -/
theorem Reads.parse_written {α : Type} {read : Reader α} {t : Tree} {value : α}
    (reads : Reads read t value) (compact : Bool) : parse read (t.render compact) = .ok value := by
  have whole := reads blank_nil (t.writes_render compact) ends_nil
  rw [List.nil_append, List.append_nil] at whole
  rw [parse, whole]
  rfl

/-- Annotations, configurations and the tokens and annotations of documents come back as they were,
whether they are printed on one line or over several. -/
theorem parse_render (compact : Bool) :
    (∀ a : Annotation, a.InWords → parse Annotation.read (a.toTree.render compact) = .ok a)
      ∧ (∀ config : Config, config.InWords →
        parse Config.read (config.toTree.render compact) = .ok config)
      ∧ ∀ d : Document, (∀ a ∈ d.annotations, a.InWords) →
        ∃ d', parse Document.read (d.toTree.render compact) = .ok d'
          ∧ d'.tokens = d.tokens ∧ d'.annotations = d.annotations := by
  refine ⟨fun a words => ?_, fun config words => ?_, fun d words => ?_⟩
  · have reads := Annotation.reads words
    exact reads.parse_written compact
  · have reads := Config.reads words
    exact reads.parse_written compact
  · have reads := Document.reads words
    exact ⟨_, reads.parse_written compact, rfl, rfl⟩

/-- An annotation whose texts have to be escaped, with the greatest of starts. -/
def escaped : Annotation :=
  ⟨some "\"\\", "line\nfeed\x01", Offset.greatest, 0, .ofList [("ключ", "\t"), ("", "é")]⟩

theorem parse_render_escaped :
    (escaped.InWords
      ∧ parse Annotation.read (escaped.toTree.render false) = .ok escaped)
    ∧ ((⟨true, 0, Offset.greatest, "\"", 7⟩ : Config).InWords
      ∧ parse Config.read ((⟨true, 0, Offset.greatest, "\"", 7⟩ : Config).toTree.render false)
        = .ok ⟨true, 0, Offset.greatest, "\"", 7⟩)
    ∧ ((∀ a ∈ [escaped, .ofSpan "" 1 2], a.InWords)
      ∧ ∃ d, parse Document.read ((⟨[⟨"\\", "\r\n", .ofList [("\"", ())]⟩, .ofText ""],
          [escaped, .ofSpan "" 1 2], .standard⟩ : Document).toTree.render false) = .ok d
        ∧ d.tokens = [⟨"\\", "\r\n", .ofList [("\"", ())]⟩, .ofText ""]
        ∧ d.annotations = [escaped, .ofSpan "" 1 2]) := by
  have inWords : escaped.InWords := by decide
  have config : (⟨true, 0, Offset.greatest, "\"", 7⟩ : Config).InWords := by decide
  have annotations : ∀ a ∈ [escaped, .ofSpan "" 1 2], a.InWords := by
    simpa using ⟨inWords, by decide⟩
  exact ⟨⟨inWords, (parse_render false).1 _ inWords⟩,
    ⟨config, (parse_render false).2.1 _ config⟩,
    ⟨annotations, (parse_render false).2.2 _ annotations⟩⟩

end Json

end SpanSearch
