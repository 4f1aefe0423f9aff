import SpanSearch.Proofs.Search.Sources

/-! # Searches after additions

An annotation that is added to an index comes after those that the index shows already, and takes the
place of none. So a search finds what it found before, in the same order, and maybe more between:
neither a longer candidate nor a second one of the same start keeps an earlier one from its match.
-/

namespace SpanSearch

theorem sublist_join (annotations : List Annotation) (a : Annotation) :
    annotations.Sublist (join annotations a) := by
  unfold join
  split
  · exact .refl _
  · exact List.sublist_append_left ..

namespace Index

variable {index : Index} {source : Source} {start : Nat} {config : Config} {tokens : List Token}
  {interrupted : Nat → Bool} {p : Pattern}

/-- An addition leaves what is shown as it is, whether the annotation is filed or not. -/
theorem annotations_sublist_add {type : String} (type' : String) (a : Annotation) :
    (index.annotations source type start).Sublist
      ((index.add source type' a).2.annotations source type start) := by
  by_cases gone : index.disposed = true
  · rw [add_of_disposed gone]
  · rw [Bool.not_eq_true] at gone
    cases held : hasSize (index.annotations source type' a.start) a with
    | true => rw [add_of_held held, annotations_draw]
    | false =>
      rw [add_of_free gone held, annotations_file settled_draw, annotations_draw]
      split
      · exact sublist_join _ a
      · exact .refl _

/-- So do several additions. -/
theorem annotations_sublist_addAllAs {type type' : String} (added : List Annotation) :
    (index.annotations source type start).Sublist
      ((index.addAllAs source type' added).annotations source type start) := by
  induction added generalizing index with
  | nil => exact .refl _
  | cons a added ih => exact (annotations_sublist_add type' a).trans ih

/-- A search finds at least what it finds in an index that shows no more. -/
theorem find_sublist_find {index' : Index}
    (more : ∀ type start,
      (index.annotations source type start).Sublist (index'.annotations source type start)) :
    (index.find source config tokens interrupted p).1.Sublist
      (index'.find source config tokens interrupted p).1 := by
  rw [find_eq, find_eq]
  exact Search.related_findAndTypes .sublist fun type _ start => more type start

/-- What an index shows is the same after a search. -/
theorem annotations_find {type : String} :
    (index.find source config tokens interrupted p).2.annotations source type start
      = index.annotations source type start :=
  annotations_drawAll

/-- The same holds where many annotations are added in a row. -/
theorem find_sublist_find_addAllAs {type : String} (added : List Annotation) :
    (index.find source config tokens interrupted p).1.Sublist
      ((index.addAllAs source type added).find source config tokens interrupted p).1 :=
  find_sublist_find fun _ _ => annotations_sublist_addAllAs added

end Index

end SpanSearch
