import SpanSearch.Proofs.Document.Coverage
import SpanSearch.Proofs.Document.Subscriber
import SpanSearch.Proofs.Keyed

/-! # Replaying events

Whoever takes down the annotations of a document and follows its events from then on knows the
annotations at any later moment, in order. Only the spans are not told where tokens were edited. Each
subscriber gets just these events, whatever the other ones do.
-/

namespace SpanSearch

/-- The annotations after an event, for someone who knew those before it. Annotations are told apart
by their identifiers. -/
def Event.replay (annotations : List Annotation) : Event → List Annotation
  | tokens => annotations
  | added a => annotations ++ [a]
  | removed a => annotations.filter (·.id != a.id)
  | retyped _ a | changed a => annotations.map fun b => if b.id = a.id then a else b

/-- The annotations after several events. -/
def Event.replayAll (events : List Event) (annotations : List Annotation) : List Annotation :=
  events.foldl replay annotations

/-- Whether an operation inserts or removes tokens, if it does not fail. -/
def Operation.isTokenEdit : Operation → Bool
  | insert .. | removeTokens .. => true
  | _ => false

/-- The events of several operations, in order. -/
def Document.emitted (d : Document) : List Operation → List Event
  | [] => []
  | op :: ops => (op.outcome d).2 ++ emitted (op.outcome d).1 ops

namespace Annotation

variable {a b c : Annotation}

theorem SameBut.refl (a : Annotation) : a.SameBut a := ⟨rfl, rfl, rfl⟩

theorem SameBut.trans (first : a.SameBut b) (second : b.SameBut c) : a.SameBut c :=
  ⟨second.id.trans first.id, second.type.trans first.type,
    second.attributes.trans first.attributes⟩

end Annotation

theorem forall₂_sameBut_refl (as : List Annotation) : List.Forall₂ Annotation.SameBut as as :=
  List.forall₂_same.2 fun a _ => .refl a

theorem forall₂_sameBut_trans {as bs cs : List Annotation}
    (first : List.Forall₂ Annotation.SameBut as bs)
    (second : List.Forall₂ Annotation.SameBut bs cs) : List.Forall₂ Annotation.SameBut as cs := by
  induction first generalizing cs with
  | nil => exact second
  | cons same _ ih =>
    cases second with
    | cons same' rest => exact .cons (same.trans same') (ih rest)

namespace Event

variable {allowed : List Annotation → Annotation → List Annotation → Prop}
  {before after as bs : List Annotation} {event : Event}

theorem replayAll_append (events events' : List Event) (annotations : List Annotation) :
    replayAll (events ++ events') annotations = replayAll events' (replayAll events annotations) :=
  List.foldl_append

/-- Spans do not matter to what an event does to the rest. -/
theorem replay_sameBut (same : List.Forall₂ Annotation.SameBut as bs) (event : Event) :
    List.Forall₂ Annotation.SameBut (event.replay as) (event.replay bs) := by
  have replaced (a : Annotation) :
      List.Forall₂ Annotation.SameBut (as.map fun b => if b.id = a.id then a else b)
        (bs.map fun b => if b.id = a.id then a else b) := by
    refine List.rel_map (fun b c same => ?_) same
    by_cases here : b.id = a.id
    · rw [if_pos here, if_pos (same.id.trans here)]
      exact .refl a
    · rw [if_neg here, if_neg (fun there => here (same.id.symm.trans there))]
      exact same
  cases event with
  | tokens => exact same
  | added a => exact List.rel_append same (.cons (.refl a) .nil)
  | removed a =>
    refine List.rel_filter (fun b c same => ?_) same
    simp only [same.id]
  | retyped type a => exact replaced a
  | changed a => exact replaced a

theorem replayAll_sameBut (same : List.Forall₂ Annotation.SameBut as bs) (events : List Event) :
    List.Forall₂ Annotation.SameBut (replayAll events as) (replayAll events bs) := by
  induction events generalizing as bs with
  | nil => exact same
  | cons event events ih => exact ih (replay_sameBut same event)

/-- What an event tells comes of replaying it. -/
theorem Tells.replay_eq (tells : event.Tells allowed before after)
    (distinct : (before.map (·.id)).Nodup) (quiet : event ≠ .tokens) :
    event.replay before = after := by
  cases tells with
  | tokens => exact absurd rfl quiet
  | added => rfl
  | removed => exact Keyed.filter_split distinct
  | retyped => exact Keyed.map_split distinct _
  | changed => exact Keyed.map_split distinct _

/-- Replaying removals leaves those that were not removed. -/
theorem replayAll_removed (gone annotations : List Annotation) :
    replayAll (gone.map .removed) annotations
      = annotations.filter fun b => gone.all fun a => b.id != a.id := by
  induction gone generalizing annotations with
  | nil => exact (List.filter_eq_self.2 fun _ _ => rfl).symm
  | cons a gone ih =>
    rw [List.map_cons, replayAll, List.foldl_cons]
    refine (ih _).trans ?_
    simp only [replay, List.filter_filter, List.all_cons, Bool.and_comm]

end Event

section

variable {allowed : List Annotation → Annotation → List Annotation → Prop}
  {before after : List Annotation} {event : Event}

theorem Replays.eq_of_nil (told : Replays allowed [] before after) : before = after := by
  cases told
  rfl

theorem Replays.tells (told : Replays allowed [event] before after) :
    event.Tells allowed before after := by
  cases told with
  | cons tells rest => exact rest.eq_of_nil ▸ tells

end

namespace Operation

variable {d : Document} {op : Operation}

/-- An operation that edits no tokens emits one event at most, which is not about tokens. -/
theorem outcome_of_not_isTokenEdit (other : op.isTokenEdit = false) :
    (op.outcome d).2 = [] ∨ ∃ event, (op.outcome d).2 = [event] ∧ event ≠ .tokens := by
  cases op with
  | annotate fresh a =>
    simp only [outcome, Document.annotate]
    split
    · exact .inl rfl
    · split
      · exact .inl rfl
      · exact .inr ⟨_, rfl, Event.noConfusion⟩
  | remove id =>
    simp only [outcome, Document.remove]
    split
    · exact .inl rfl
    · exact .inr ⟨_, rfl, Event.noConfusion⟩
  | retype id type =>
    simp only [outcome, Document.retype]
    split
    · exact .inl rfl
    · split
      · exact .inl rfl
      · exact .inr ⟨_, rfl, Event.noConfusion⟩
  | setAttribute id name value =>
    simp only [outcome, Document.setAttribute]
    split
    · exact .inl rfl
    · exact .inr ⟨_, rfl, Event.noConfusion⟩
  | setFlag place flag =>
    simp only [outcome, Document.setFlag]
    split <;> exact .inl rfl
  | insert place text => cases other
  | removeTokens start count => cases other

theorem quiet_of_not_isTokenEdit (other : op.isTokenEdit = false) :
    .tokens ∉ (op.outcome d).2 := by
  rcases outcome_of_not_isTokenEdit (d := d) other with none | ⟨event, one, quiet⟩
  · rw [none]
    exact List.not_mem_nil
  · rw [one, List.mem_singleton]
    exact quiet.symm

/-- An edit of tokens that emits nothing about tokens emits nothing at all. -/
theorem outcome_of_quiet (edits : op.isTokenEdit = true) (quiet : .tokens ∉ (op.outcome d).2) :
    (op.outcome d).2 = [] := by
  cases op with
  | insert place text =>
    revert quiet
    simp only [outcome, Document.insert]
    split
    · exact fun _ => rfl
    · split
      · exact fun _ => rfl
      · intro quiet
        exact absurd (List.mem_singleton.2 rfl) quiet
  | removeTokens start count =>
    revert quiet
    simp only [outcome, Document.removeTokens]
    split
    · exact fun _ => rfl
    · split
      · exact fun _ => rfl
      · intro quiet
        exact absurd (List.mem_append_right _ (List.mem_singleton.2 rfl)) quiet
  | _ => cases edits

/-- Replaying the events of an operation gives the annotations after it, unless they are about
tokens. -/
theorem replayAll_outcome (identified : d.Identified) (quiet : .tokens ∉ (op.outcome d).2) :
    Event.replayAll (op.outcome d).2 d.annotations = (op.outcome d).1.annotations := by
  have told : Replays (fun _ _ _ => True) (op.outcome d).2 d.annotations
      (op.outcome d).1.annotations :=
    op.replays_outcome d fun _ _ _ _ _ _ _ => trivial
  have short : (op.outcome d).2 = [] ∨ ∃ event, (op.outcome d).2 = [event] ∧ event ≠ .tokens := by
    cases edits : op.isTokenEdit with
    | false => exact outcome_of_not_isTokenEdit edits
    | true => exact .inl (outcome_of_quiet edits quiet)
  rcases short with none | ⟨event, one, other⟩
  · rw [none] at told ⊢
    exact told.eq_of_nil
  · rw [one] at told ⊢
    exact told.tells.replay_eq identified.distinct other

end Operation

namespace Document

variable {d : Document}

/-- Annotations that are told to be removed are told by their identifiers. -/
theorem Identified.replayAll_removed (identified : d.Identified) (lost : Annotation → Bool) :
    Event.replayAll ((d.annotations.filter lost).map .removed) d.annotations
      = d.annotations.filter (!lost ·) := by
  rw [Event.replayAll_removed]
  apply List.filter_congr
  intro b mem
  rw [Bool.eq_iff_iff]
  simp only [List.all_eq_true, List.mem_filter, bne_iff_ne, Bool.not_eq_true']
  constructor
  · intro others
    by_contra gone
    exact others b ⟨mem, by simpa using gone⟩ rfl
  · rintro stays a ⟨mem', gone⟩ same
    rw [identified.eq_of_id mem mem' same, gone] at stays
    cases stays

theorem sameBut_insert (d : Document) (place : Nat) (text : String) :
    List.Forall₂ Annotation.SameBut
      (Event.replayAll (d.after (d.insert place text)).2 d.annotations)
      (d.after (d.insert place text)).1.annotations := by
  unfold Document.insert
  dsimp only
  split
  · exact forall₂_sameBut_refl _
  · split
    · exact forall₂_sameBut_refl _
    · apply List.forall₂_map_right_iff.2
      exact List.forall₂_same.2 fun a _ => a.sameBut_afterInsertion _ _

theorem Identified.sameBut_removeTokens (identified : d.Identified) (start count : Nat) :
    List.Forall₂ Annotation.SameBut
      (Event.replayAll (d.after (d.removeTokens start count)).2 d.annotations)
      (d.after (d.removeTokens start count)).1.annotations := by
  unfold Document.removeTokens
  dsimp only
  split
  · exact forall₂_sameBut_refl _
  · split
    · exact forall₂_sameBut_refl _
    · apply List.forall₂_map_right_iff.2
      rw [Document.after, Event.replayAll_append, identified.replayAll_removed]
      exact List.forall₂_same.2 fun a _ => a.sameBut_afterRemoval _ _

/-- Replaying the events of an operation gives the annotations after it, but for their spans. -/
theorem Identified.sameBut_outcome (identified : d.Identified) (op : Operation) :
    List.Forall₂ Annotation.SameBut (Event.replayAll (op.outcome d).2 d.annotations)
      (op.outcome d).1.annotations := by
  cases edits : op.isTokenEdit with
  | false =>
    rw [Operation.replayAll_outcome identified (Operation.quiet_of_not_isTokenEdit edits)]
    exact forall₂_sameBut_refl _
  | true =>
    cases op with
    | insert place text => exact d.sameBut_insert place text
    | removeTokens start count => exact identified.sameBut_removeTokens start count
    | _ => cases edits

/-- Replaying the events of several operations over what was taken down before gives the annotations
after them, but for their spans. -/
theorem Identified.sameBut_emitted {annotations : List Annotation} (identified : d.Identified)
    (known : List.Forall₂ Annotation.SameBut annotations d.annotations) (ops : List Operation) :
    List.Forall₂ Annotation.SameBut (Event.replayAll (d.emitted ops) annotations)
      (d.edited ops).annotations := by
  induction ops generalizing d annotations with
  | nil => exact known
  | cons op ops ih =>
    rw [emitted, Event.replayAll_append]
    apply ih (identified.outcome op)
    exact forall₂_sameBut_trans (Event.replayAll_sameBut known _)
      (identified.sameBut_outcome op)

/-- The spans are told as well where nothing is told about tokens. -/
theorem Identified.replayAll_emitted (identified : d.Identified) (ops : List Operation)
    (quiet : .tokens ∉ d.emitted ops) :
    Event.replayAll (d.emitted ops) d.annotations = (d.edited ops).annotations := by
  induction ops generalizing d with
  | nil => rfl
  | cons op ops ih =>
    rw [emitted, List.mem_append, not_or] at quiet
    rw [emitted, Event.replayAll_append, Operation.replayAll_outcome identified quiet.1]
    exact ih (identified.outcome op) quiet.2

theorem quiet_emitted {ops : List Operation} (others : ∀ op ∈ ops, op.isTokenEdit = false) :
    .tokens ∉ d.emitted ops := by
  induction ops generalizing d with
  | nil => exact List.not_mem_nil
  | cons op ops ih =>
    obtain ⟨other, others⟩ := List.forall_mem_cons.1 others
    rw [emitted, List.mem_append, not_or]
    exact ⟨Operation.quiet_of_not_isTokenEdit other, ih others⟩

end Document

end SpanSearch
