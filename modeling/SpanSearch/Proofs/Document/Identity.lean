import Mathlib.Data.List.Nodup
import SpanSearch.Proofs.Document.Operation

/-! # Identifiers in documents

Every annotation of a document has an identifier of its own, whatever operations were carried out.
So an annotation can be told by its identifier.
-/

namespace SpanSearch.Document

/-- Whether all annotations have identifiers, no two of them the same. -/
structure Identified (d : Document) : Prop where
  named : ∀ a ∈ d.annotations, a.id ≠ none
  distinct : (d.annotations.map (·.id)).Nodup

variable {d d' : Document} {a b : Annotation} {id : String}

theorem identified_ofTokens (tokenizer : Tokenizer) (tokens : List Token) :
    (ofTokens tokenizer tokens).Identified :=
  ⟨fun _ mem => (nomatch mem), .nil⟩

theorem Identified.eq_of_id (identified : d.Identified) (mem : a ∈ d.annotations)
    (mem' : b ∈ d.annotations) (same : a.id = b.id) : a = b :=
  List.inj_on_of_nodup_map identified.distinct mem mem' same

theorem Identified.eq_of_identifier (identified : d.Identified) (mem : a ∈ d.annotations)
    (mem' : b ∈ d.annotations) (same : a.identifier = b.identifier) : a = b := by
  refine identified.eq_of_id mem mem' ?_
  obtain ⟨id, named⟩ := Option.ne_none_iff_exists'.1 (identified.named a mem)
  obtain ⟨id', named'⟩ := Option.ne_none_iff_exists'.1 (identified.named b mem')
  simp only [ Annotation.identifier, named, named'] at same
  rw [named, named', same]

theorem Identified.find?_eq (identified : d.Identified) (mem : a ∈ d.annotations)
    (named : a.id = some id) : d.find? id = some a := by
  obtain ⟨b, found⟩ : ∃ b, d.find? id = some b :=
    Option.isSome_iff_exists.1 (List.find?_isSome.2 ⟨a, mem, by simp [named]⟩)
  have named' : b.id = some id := by simpa using List.find?_some found
  rw [found, identified.eq_of_id (List.mem_of_find?_eq_some found) mem (named'.trans named.symm)]

/-- An annotation that gets another type stays where it is. -/
theorem Identified.outcome_retype {front back : List Annotation} {type : String}
    (identified : d.Identified) (split : d.annotations = front ++ a :: back)
    (named : a.id = some id) (differs : a.type ≠ type) :
    (Operation.retype id type).outcome d
      = ({ d with annotations := front ++ { a with type := type } :: back },
          [.retyped a.type { a with type := type }]) := by
  have others : ∀ b ∈ front, b.id ≠ some id := by
    intro b mem same
    have distinct := identified.distinct
    rw [split, List.map_append, List.map_cons] at distinct
    exact (List.nodup_append.1 distinct).2.2 _ (List.mem_map_of_mem mem) _ List.mem_cons_self
      (same.trans named.symm)
  simp only [Operation.outcome, Document.retype, identified.find?_eq (by simp [split]) named,
    if_neg differs, split, replaceFirst_eq named others, Document.after]

/-- An edit that neither adds identifiers nor changes any leaves them distinct. -/
theorem Identified.of_sublist (identified : d.Identified)
    (sub : List.Sublist (d'.annotations.map (·.id)) (d.annotations.map (·.id))) :
    d'.Identified where
  named a mem := by
    obtain ⟨b, mem', same⟩ := List.mem_map.1 (sub.subset (List.mem_map_of_mem mem))
    exact fun none => identified.named b mem' (same.trans none)
  distinct := identified.distinct.sublist sub

theorem map_id_replaceFirst (named : a.id = some id) (annotations : List Annotation) :
    (replaceFirst id a annotations).map (·.id) = annotations.map (·.id) := by
  induction annotations with
  | nil => rfl
  | cons b annotations ih =>
    by_cases here : b.id = some id
    · simp [replaceFirst, here, named]
    · simp [replaceFirst, here, ih]

theorem Identified.annotate (identified : d.Identified) (fresh : String) (a : Annotation) :
    (d.after (d.annotate fresh a)).1.Identified := by
  unfold Document.annotate
  dsimp only
  split
  · exact identified
  · split
    · exact identified
    · next unused =>
      have unused : ∀ b ∈ d.annotations, b.id ≠ some (a.id.getD fresh) := by
        simpa [Document.find?] using unused
      refine ⟨List.forall_mem_append.2 ⟨identified.named, by simp⟩, ?_⟩
      simp only [Document.after, List.map_append, List.map_cons, List.map_nil]
      refine List.nodup_append'.2 ⟨identified.distinct, List.nodup_singleton _, ?_⟩
      rw [List.disjoint_singleton]
      rintro mem
      obtain ⟨b, mem, same⟩ := List.mem_map.1 mem
      exact unused b mem same

theorem Identified.remove (identified : d.Identified) (id : String) :
    (d.after (d.remove id)).1.Identified := by
  unfold Document.remove
  split
  · exact identified
  · exact identified.of_sublist (List.eraseP_sublist.map _)

theorem Identified.replaceFirst (identified : d.Identified) (named : a.id = some id) :
    Identified { d with annotations := Document.replaceFirst id a d.annotations } :=
  identified.of_sublist (by rw [map_id_replaceFirst named])

theorem Identified.retype (identified : d.Identified) (id type : String) :
    (d.after (d.retype id type)).1.Identified := by
  unfold Document.retype
  split
  · exact identified
  · next found =>
    split
    · exact identified
    · exact identified.replaceFirst (by simpa using List.find?_some found)

theorem Identified.setAttribute (identified : d.Identified) (id name value : String) :
    (d.after (d.setAttribute id name value)).1.Identified := by
  unfold Document.setAttribute
  split
  · exact identified
  · next found =>
    exact identified.replaceFirst (by simpa [ Annotation.set] using List.find?_some found)

theorem Identified.setFlag (identified : d.Identified) (place : Nat) (flag : String) :
    (d.after (d.setFlag place flag)).1.Identified := by
  unfold Document.setFlag
  split
  · exact ⟨identified.named, identified.distinct⟩
  · exact identified

theorem Identified.insert (identified : d.Identified) (place : Nat) (text : String) :
    (d.after (d.insert place text)).1.Identified := by
  have kept (count : Nat) (a : Annotation) : (a.afterInsertion place count).id = a.id := by
    unfold Annotation.afterInsertion
    split
    · rfl
    · split <;> rfl
  unfold Document.insert
  dsimp only
  split
  · exact identified
  · split
    · exact identified
    · refine identified.of_sublist ?_
      simp only [Document.after, List.map_map, Function.comp_def, kept]
      exact List.Sublist.refl _

theorem Identified.removeTokens (identified : d.Identified) (start count : Nat) :
    (d.after (d.removeTokens start count)).1.Identified := by
  unfold Document.removeTokens
  dsimp only
  split
  · exact identified
  · split
    · exact identified
    · refine identified.of_sublist ?_
      simp only [Document.after, List.map_map, Function.comp_def, Annotation.afterRemoval]
      exact List.filter_sublist.map _

/-- Identifiers stay distinct. -/
theorem Identified.outcome (identified : d.Identified) (op : Operation) :
    (op.outcome d).1.Identified := by
  cases op with
  | annotate fresh a => exact identified.annotate fresh a
  | remove id => exact identified.remove id
  | retype id type => exact identified.retype id type
  | setAttribute id name value => exact identified.setAttribute id name value
  | setFlag place flag => exact identified.setFlag place flag
  | insert place text => exact identified.insert place text
  | removeTokens start count => exact identified.removeTokens start count

/-- The document after several operations. -/
def edited (d : Document) (ops : List Operation) : Document :=
  ops.foldl (fun d op => (op.outcome d).1) d

theorem Identified.edited (identified : d.Identified) (ops : List Operation) :
    (d.edited ops).Identified := by
  induction ops generalizing d with
  | nil => exact identified
  | cons op ops ih => exact ih (identified.outcome op)

theorem edited_append (ops ops' : List Operation) :
    d.edited (ops ++ ops') = (d.edited ops).edited ops' :=
  List.foldl_append

theorem document_performAll (board : Board) (ops : List Operation) :
    (Operation.performAll board ops).document = board.document.edited ops := by
  induction ops generalizing board with
  | nil => rfl
  | cons op ops ih => exact (ih (op.perform board)).trans (by rw [Operation.document_perform]; rfl)

end SpanSearch.Document
