import SpanSearch.Proofs.Document.Delivery
import SpanSearch.Proofs.Index.Independence
import SpanSearch.Proofs.Index.Lead
import SpanSearch.Proofs.Search.Lookups

/-! # Where a search looks annotations up

The order in which lookups give annotations decides the order of matches of one span, and nothing
else. Whether an index holds the annotations of a document as they are stored, draws them from the
document, has a parent for that or observes the document: each time it gives the first annotation of
each span, so a search finds the same matches.
-/

namespace SpanSearch

/-! ## The first annotation of each span -/

section

variable {annotations annotations' : List Annotation} {start : Nat} {type : String}

theorem filed_fileAll_empty :
    (Index.empty.fileAll type annotations).filed type start = firstsAt start annotations :=
  Index.filed_fileAll

theorem mem_firstsAt {a : Annotation} :
    a ∈ firstsAt start annotations
      ↔ annotations.find? (·.sameSpan a) = some a ∧ a.start = start := by
  have given : (Index.empty.fileAll "" annotations).filed "" start = firstsAt start annotations :=
    filed_fileAll_empty
  rw [← given, Index.mem_filed, Index.mem_entries_fileAll_iff fun _ mem => by cases mem]
  simp [Index.empty]

theorem nodup_firstsAt : (firstsAt start annotations).Nodup := by
  have apart : (Index.empty.fileAll "" annotations).Apart := Index.Apart.fileAll .nil
  have sizes := apart.sizes "" start
  rw [filed_fileAll_empty] at sizes
  exact sizes.imp fun differ same => differ (congrArg Annotation.size same)

/-- Lists in which the same annotations come first of their spans have the same ones to give. -/
theorem perm_firstsAt
    (same : ∀ a, annotations.find? (·.sameSpan a) = annotations'.find? (·.sameSpan a)) :
    (firstsAt start annotations).Perm (firstsAt start annotations') :=
  (List.perm_ext_iff_of_nodup nodup_firstsAt nodup_firstsAt).2 fun a => by
    rw [mem_firstsAt, mem_firstsAt, same]

/-- The first annotations of their spans among those of a type that a document has. -/
def Document.firsts (d : Document) : Search.Lookup := fun type start =>
  firstsAt start (d.annotations.filter (·.type == type))

/-- A document provides the first annotations of their spans, if not in the order in which it has
them. -/
theorem perm_firstsAt_ofType (d : Document) (type : String) (start : Nat) :
    (firstsAt start (d.source.ofType type)).Perm (d.firsts type start) := by
  refine perm_firstsAt fun a => ?_
  rw [find?_ofType, lead, List.find?_filter]
  congr 1
  funext b
  rw [ Annotation.rivals, Bool.decide_and, Bool.decide_eq_true, Bool.decide_eq_true]

end

/-! ## What indexes give -/

namespace Index

variable {index : Index} {source : Source} {type : String} {types : List String} {start : Nat}
  {annotations : List Annotation}

theorem annotations_drawAll :
    (index.drawAll source types).annotations source type start
      = index.annotations source type start := by
  induction types generalizing index with
  | nil => rfl
  | cons type' types ih => exact (@ih (index.draw source type')).trans annotations_draw

theorem settled_drawAll (settled : index.disposed = true ∨ type ∈ index.drawn) :
    (index.drawAll source types).disposed = true ∨ type ∈ (index.drawAll source types).drawn := by
  induction types generalizing index with
  | nil => exact settled
  | cons type' types ih =>
    refine @ih (index.draw source type') ?_
    rw [disposed_draw]
    cases open_ : index.disposed with
    | true => exact .inl rfl
    | false =>
      rw [open_] at settled
      exact .inr ((mem_drawn_draw open_).2 (.inr (settled.resolve_left Bool.false_ne_true)))

/-- After types were drawn, what is filed under them is what is shown. -/
theorem filed_drawAll (mem : type ∈ types) :
    (index.drawAll source types).filed type start = index.annotations source type start := by
  have settled : (index.drawAll source types).disposed = true
      ∨ type ∈ (index.drawAll source types).drawn := by
    induction types generalizing index with
    | nil => cases mem
    | cons type' types ih =>
      rcases List.mem_cons.1 mem with rfl | mem
      · exact @settled_drawAll (index.draw source type) source type types settled_draw
      · exact @ih (index.draw source type') mem
  rw [← annotations_drawAll, annotations_of_settled settled]

/-- An index that annotations are added to without a source shows the first ones of their spans. -/
theorem filed_addAll (open_ : index.disposed = false) :
    (index.addAll .none annotations).filed type start
      = ((annotations.filter (·.type == type)).filter (·.start == start)).foldl join
          (index.filed type start) := by
  induction annotations generalizing index with
  | nil => rfl
  | cons a annotations ih =>
    have added : (index.add .none a.type a).2.filed type start
        = (index.file a.type a).filed type start := by
      rw [filed, filed, entries_add_none open_]
    refine (@ih (index.add .none a.type a).2 (disposed_add.trans open_)).trans ?_
    rw [added, filed_file, List.filter_cons]
    by_cases here : a.type = type
    · rw [if_pos (beq_iff_eq.2 here), List.filter_cons]
      by_cases start_ : a.start = start
      · rw [if_pos ⟨here.symm, start_.symm⟩, if_pos (beq_iff_eq.2 start_), List.foldl_cons]
      · rw [if_neg fun h => start_ h.2.symm, if_neg fun h => start_ (beq_iff_eq.1 h)]
    · rw [if_neg fun h => here h.1.symm, if_neg fun h => here (beq_iff_eq.1 h)]

theorem disposed_addAll : (index.addAll source annotations).disposed = index.disposed := by
  induction annotations generalizing index with
  | nil => rfl
  | cons a annotations ih => exact (@ih (index.add source a.type a).2).trans disposed_add

theorem annotations_ofList (d : Document) :
    (ofList d.annotations).annotations .none type start = d.firsts type start := by
  rw [Index.annotations, filed, entries_draw_none]
  exact filed_addAll rfl

section

variable {config : Config} {tokens : List Token} {interrupted : Nat → Bool} {p : Pattern}
  {lookup : Search.Lookup}

/-- A search in an index looks up what the index shows. -/
theorem find_eq :
    (index.find source config tokens interrupted p).1
      = (Search.findAndTypes config tokens (index.annotations source) interrupted p).1 := by
  refine Search.related_findAndTypes .eq fun type mem start => ?_
  exact filed_drawAll mem

theorem find_perm
    (same : ∀ type start, (index.annotations source type start).Perm (lookup type start)) :
    (index.find source config tokens interrupted p).1.Perm
      (Search.findAndTypes config tokens lookup interrupted p).1 := by
  rw [find_eq]
  exact Search.related_findAndTypes .perm fun type _ start => same type start

end

end Index

namespace Forest

variable {forest : Forest} {i j : Nat} {types : List String} {type : String} {start : Nat}

theorem sites_drawAll : (forest.drawAll i types).sites = forest.sites := by
  induction types generalizing forest with
  | nil => rfl
  | cons type types ih => exact (@ih (forest.draw i type)).trans sites_draw

theorem annotations_drawAll :
    (forest.drawAll i types).annotations j type start = forest.annotations j type start :=
  annotations_congr fun k _ => by rw [sites_drawAll]

theorem find_perm {config : Config} {tokens : List Token} {interrupted : Nat → Bool} {p : Pattern}
    {lookup : Search.Lookup}
    (same : ∀ type start, (forest.annotations i type start).Perm (lookup type start)) :
    (forest.find i config tokens interrupted p).1.Perm
      (Search.findAndTypes config tokens lookup interrupted p).1 := by
  refine Search.related_findAndTypes .perm fun type _ start => ?_
  rw [annotations_drawAll]
  exact same type start

/-- An index with nothing in it, whose parent is another one. -/
def under (index : Index) (source : Source) : Forest :=
  (((empty.grow source none).2.setIndex 0 index).grow .none (some 0)).2

/-- An index with nothing in it finds what its parent does. -/
theorem annotations_under {index : Index} {source : Source} (open_ : index.disposed = false) :
    (under index source).annotations 1 type start = index.annotations source type start := by
  have root : (under index source).nodes[0]? = some ⟨index, source, none⟩ := rfl
  have child : (under index source).nodes[1]? = some ⟨.empty, .none, some 0⟩ := rfl
  have noLink : (under index source).parent 0 = none := rfl
  have link : (under index source).parent 1 = some 0 := rfl
  have above : (under index source).annotations 0 type start
      = index.annotations source type start := by
    rw [annotations_of_node root, open_, if_neg Bool.false_ne_true, inherited, noLink]
    exact List.append_nil _
  rw [annotations_of_node child, inherited, link, Option.elim_some, above]
  exact List.filter_eq_self.2 fun _ _ => rfl

end Forest

/-! ## The annotations of a document -/

/-- A new observer searches like a fresh index over the document. -/
theorem Observer.find_subscribe {board : Board} (numbered : board.feed.Numbered) (config : Config)
    (interrupted : Nat → Bool) (p : Pattern) :
    ((subscribe board).1.find (subscribe board).2 config interrupted p).1
      = (Index.empty.find board.document.source config board.document.tokens interrupted p).1 := by
  have unread : board.feed.subscribe.2.unread board.feed.subscribe.1 = [] :=
    numbered.unread_subscribe
  have synced : ((subscribe board).1.sync (subscribe board).2).1.index = .empty := by
    simp only [subscribe, sync, unread, List.foldl_nil]
  have source : ((subscribe board).1.sync (subscribe board).2).1.source
      ((subscribe board).1.sync (subscribe board).2).2 = board.document.source := rfl
  simp only [Observer.find, Index.find, synced, source]
  split <;> rfl

end SpanSearch
