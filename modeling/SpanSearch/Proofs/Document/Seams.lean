import SpanSearch.Proofs.Document.Replay
import SpanSearch.Proofs.Token.Apart

/-! # Seams of edits

Where tokens are inserted, a blank keeps them apart from their neighbours. Where tokens are removed,
nothing does, and a token that ends at the seam may extend into the text that moved up to it. These
are all the edits after which the text of a document is not cut into its tokens again.
-/

namespace SpanSearch

/-- Whether the text of a document is cut into its tokens again. -/
def Document.Recut (d : Document) : Prop :=
  (d.tokenizer.tokens (Token.textOf d.tokens 0 d.tokens.length)).map (·.text)
    = d.tokens.map (·.text)

instance (d : Document) : Decidable d.Recut := inferInstanceAs (Decidable (_ = _))

/-- Whether an operation removes tokens between two of which the first extends into the text that
moves up to it. -/
def Operation.Glues (d : Document) : Operation → Prop
  | removeTokens start count =>
    (d.removeTokens start count).isOk = true
      ∧ Token.Glues (d.tokens.take start) (d.tokens.drop (start + count))
  | _ => False

namespace Token

variable {f : Token → Token} {ts : List Token}

/-- What is changed about tokens but their texts and white space does not matter. -/
theorem written_modify (text : ∀ t, (f t).text = t.text) (space : ∀ t, (f t).space = t.space)
    (place : Nat) : written (ts.modify place f) = written ts := by
  induction ts generalizing place with
  | nil => cases place <;> rfl
  | cons t ts ih =>
    cases place with
    | zero => simp [text, space]
    | succ place => simp [ih]

theorem Apart.modify (apart : Apart ts) (text : ∀ t, (f t).text = t.text)
    (space : ∀ t, (f t).space = t.space) (place : Nat) : Apart (ts.modify place f) := by
  induction ts generalizing place with
  | nil => cases place <;> trivial
  | cons t ts ih =>
    cases place with
    | zero => simpa [Apart, text, space] using apart
    | succ place => simpa [Apart, written_modify text space] using ⟨apart.1, ih apart.2 place⟩

theorem clean_modify (clean : ∀ t ∈ ts, t.Clean) (keeps : ∀ t, t.Clean → (f t).Clean)
    (place : Nat) : ∀ t ∈ ts.modify place f, t.Clean := by
  induction ts generalizing place with
  | nil => cases place <;> exact clean
  | cons t ts ih =>
    obtain ⟨first, others⟩ := List.forall_mem_cons.1 clean
    cases place with
    | zero => exact List.forall_mem_cons.2 ⟨keeps t first, others⟩
    | succ place => exact List.forall_mem_cons.2 ⟨first, ih others place⟩

end Token

namespace Document

open Token

/-- Whether the tokens of a document are those of the standard tokenizer and apart. -/
structure Neat (d : Document) : Prop where
  tokenizer : d.tokenizer = .standard
  clean : ∀ t ∈ d.tokens, t.Clean
  apart : Apart d.tokens

variable {d : Document}

theorem neat_ofText (text : String) : (ofText .standard text).Neat :=
  ⟨rfl, Cut.clean_tokens text.toList, apart_tokens text.toList⟩

/-- The text of a document is cut into its tokens again just when they are apart. -/
theorem recut_iff_apart (tokenizer : d.tokenizer = .standard) (clean : ∀ t ∈ d.tokens, t.Clean) :
    d.Recut ↔ Apart d.tokens := by
  rw [Recut, tokenizer, textOf, List.take_length, List.drop_zero, ← tokens_join_iff clean]
  rfl

theorem Neat.recut (neat : d.Neat) : d.Recut :=
  (recut_iff_apart neat.tokenizer neat.clean).2 neat.apart

/-- A blank on either side keeps tokens apart that are inserted. -/
theorem Neat.insert (neat : d.Neat) (place : Nat) (text : String) :
    (d.after (d.insert place text)).1.Neat := by
  have new := neat_ofText text
  have take (t : Token) (mem : t ∈ d.tokens.take place) : t.Clean :=
    neat.clean t (List.mem_of_mem_take mem)
  have drop (t : Token) (mem : t ∈ d.tokens.drop place) : t.Clean :=
    neat.clean t (List.mem_of_mem_drop mem)
  unfold Document.insert
  dsimp only
  rw [neat.tokenizer]
  split
  · exact neat
  · split
    · exact neat
    · generalize given : (if (d.tokens.drop place).isEmpty = true then
          Tokenizer.standard.tokens text
        else spaceLast (Tokenizer.standard.tokens text)) = inserted
      obtain ⟨clean, apart⟩ : (∀ t ∈ inserted, t.Clean)
          ∧ Apart (inserted ++ d.tokens.drop place) := by
        subst given
        split
        · next atEnd =>
          rw [List.isEmpty_iff.1 atEnd, List.append_nil]
          exact ⟨new.clean, new.apart⟩
        · exact ⟨clean_spaceLast new.clean,
            new.apart.spaceLast_append new.clean (neat.apart.drop place)⟩
      refine ⟨rfl, ?_, ?_⟩
      · exact List.forall_mem_append.2
          ⟨List.forall_mem_append.2 ⟨clean_spaceLast take, clean⟩, drop⟩
      · rw [List.append_assoc]
        exact (neat.apart.take place).spaceLast_append take apart

theorem Neat.setFlag (neat : d.Neat) (place : Nat) (flag : String) :
    (d.after (d.setFlag place flag)).1.Neat := by
  unfold Document.setFlag
  split
  · have clean := clean_modify (f := fun t => { t with flags := t.flags.add flag }) neat.clean
      (fun _ clean => ⟨clean.isToken, clean.blank⟩) place
    have apart := neat.apart.modify (f := fun t => { t with flags := t.flags.add flag })
      (fun _ => rfl) (fun _ => rfl) place
    exact ⟨neat.tokenizer, clean, apart⟩
  · exact neat

/-- Other operations leave the texts of the tokens and their white space as they are. -/
theorem Neat.outcome_of_not_isTokenEdit (neat : d.Neat) {op : Operation}
    (other : op.isTokenEdit = false) : (op.outcome d).1.Neat := by
  have same (annotations : List Annotation) : Neat { d with annotations := annotations } :=
    ⟨neat.tokenizer, neat.clean, neat.apart⟩
  cases op with
  | annotate fresh a =>
    simp only [Operation.outcome, Document.annotate]
    split
    · exact neat
    · split
      · exact neat
      · exact same _
  | remove id =>
    simp only [Operation.outcome, Document.remove]
    split
    · exact neat
    · exact same _
  | retype id type =>
    simp only [Operation.outcome, Document.retype]
    split
    · exact neat
    · split
      · exact neat
      · exact same _
  | setAttribute id name value =>
    simp only [Operation.outcome, Document.setAttribute]
    split
    · exact neat
    · exact same _
  | setFlag place flag => exact neat.setFlag place flag
  | insert place text => cases other
  | removeTokens start count => cases other

/-- A removal keeps tokens apart just when no token extends beyond the seam. -/
theorem Neat.removeTokens (neat : d.Neat) (start count : Nat) :
    (d.after (d.removeTokens start count)).1.tokenizer = .standard
      ∧ (∀ t ∈ (d.after (d.removeTokens start count)).1.tokens, t.Clean)
      ∧ (Apart (d.after (d.removeTokens start count)).1.tokens
        ↔ ¬ (Operation.removeTokens start count).Glues d) := by
  unfold Operation.Glues Document.removeTokens
  dsimp only
  split
  · refine ⟨neat.tokenizer, neat.clean, iff_of_true neat.apart ?_⟩
    rintro ⟨isOk, -⟩
    cases isOk
  · split
    · next none =>
      refine ⟨neat.tokenizer, neat.clean, iff_of_true neat.apart ?_⟩
      rintro ⟨-, glues⟩
      have apart := neat.apart
      rw [← List.take_append_drop start d.tokens] at apart
      rw [none] at glues
      exact (apart_append.1 apart).1 glues
    · refine ⟨neat.tokenizer, ?_, ?_⟩
      · exact List.forall_mem_append.2
          ⟨fun t mem => neat.clean t (List.mem_of_mem_take mem),
            fun t mem => neat.clean t (List.mem_of_mem_drop mem)⟩
      · dsimp only [Document.after]
        rw [apart_append, and_iff_left (neat.apart.drop _)]
        exact not_congr (and_iff_right rfl).symm

/-- After an operation the text is cut into the tokens again just when the operation does not
glue. -/
theorem Neat.outcome (neat : d.Neat) (op : Operation) :
    ((op.outcome d).1.Recut ↔ ¬ op.Glues d) ∧ (¬ op.Glues d → (op.outcome d).1.Neat) := by
  have kept (safe : (op.outcome d).1.Neat) (fair : ¬ op.Glues d) :
      ((op.outcome d).1.Recut ↔ ¬ op.Glues d) ∧ (¬ op.Glues d → (op.outcome d).1.Neat) :=
    ⟨iff_of_true safe.recut fair, fun _ => safe⟩
  cases op with
  | insert place text => exact kept (neat.insert place text) fun glues => glues
  | removeTokens start count =>
    obtain ⟨tokenizer, clean, apart⟩ := neat.removeTokens start count
    exact ⟨(recut_iff_apart tokenizer clean).trans apart,
      fun fair => ⟨tokenizer, clean, apart.2 fair⟩⟩
  | _ => exact kept (neat.outcome_of_not_isTokenEdit rfl) fun glues => glues

/-- Along all operations on the document of a text, its text is cut into its tokens again just when
no removal lets a token extend into the text that moves up to it. -/
theorem recut_iff_not_glues (text : String) (ops : List Operation) :
    (∀ done, done <+: ops → ((ofText .standard text).edited done).Recut)
      ↔ ∀ done op, (done ++ [op]) <+: ops →
        ¬ op.Glues ((ofText .standard text).edited done) := by
  have earlier {done : List Operation} {op : Operation} (upTo : (done ++ [op]) <+: ops) :
      done <+: ops :=
    (List.prefix_append done [op]).trans upTo
  have neat (fair : ∀ done op, (done ++ [op]) <+: ops → ((ofText .standard text).edited done).Neat →
        ¬ op.Glues ((ofText .standard text).edited done))
      (done : List Operation) (upTo : done <+: ops) :
      ((ofText .standard text).edited done).Neat := by
    induction done using List.reverseRecOn with
    | nil => exact neat_ofText text
    | append_singleton done op ih =>
      have before := ih (earlier upTo)
      rw [edited_concat]
      exact (before.outcome op).2 (fair done op upTo before)
  constructor
  · intro recut
    have fair (done : List Operation) (op : Operation) (upTo : (done ++ [op]) <+: ops)
        (before : ((ofText .standard text).edited done).Neat) :
        ¬ op.Glues ((ofText .standard text).edited done) := by
      have after := recut (done ++ [op]) upTo
      rw [edited_concat] at after
      exact (before.outcome op).1.1 after
    intro done op upTo
    exact fair done op upTo (neat fair done (earlier upTo))
  · intro fair done upTo
    exact (neat (fun done op upTo _ => fair done op upTo) done upTo).recut

/-- Without what stood between them, a letter extends into another. -/
theorem not_recut_bracket :
    ¬ ((ofText .standard "a(b").edited [.removeTokens 1 1]).Recut := by
  decide +kernel

/-- With white space before what is removed, the letters stay apart. -/
theorem not_glues_bracket :
    ¬ (Operation.removeTokens 1 1).Glues ((ofText .standard "a (b").edited []) := by
  have recut : ∀ done ∈ [Operation.removeTokens 1 1].inits,
      ((ofText .standard "a (b").edited done).Recut := by
    decide +kernel
  refine (recut_iff_not_glues "a (b" [.removeTokens 1 1]).1 (fun done upTo => ?_) [] _
    (List.prefix_refl _)
  exact recut done ((List.mem_inits done _).2 upTo)

end Document

end SpanSearch
