import SpanSearch.Search.State

/-! # Derivations of patterns

A derivation shows how tokens make up a pattern. It is a tree of occurrences like a match, and tells
besides to which element of a sequence each occurrence belongs and which branch an occurrence of a
choice takes.
-/

namespace SpanSearch.Search

/-- One occurrence of an element, with the occurrences that it consists of. -/
inductive Derivation where
  /-- An occurrence of an atom. -/
  | leaf (element : Element) (start stop : Nat) (matched : Option Annotation)
  /-- An occurrence of a sequence, with one block of occurrences for each of its elements. -/
  | all (element : Element) (start stop : Nat) (blocks : List (List Derivation))
  /-- An occurrence of a choice, with the number of a branch and a block of occurrences of it. -/
  | one (element : Element) (start stop : Nat) (branch : Nat) (block : List Derivation)

namespace Derivation

/-- The offset of the first token. -/
def start : Derivation → Nat
  | leaf _ start .. => start
  | all _ start .. => start
  | one _ start .. => start

/-- The offset after the last token. -/
def stop : Derivation → Nat
  | leaf _ _ stop _ => stop
  | all _ _ stop _ => stop
  | one _ _ stop .. => stop

mutual

/-- The occurrence in a match that a derivation stands for. -/
def tree : Derivation → Occurrence
  | leaf e start stop matched => .leaf e start stop matched
  | all e start stop blocks => .group e start stop (treesOfBlocks blocks)
  | one e start stop _ block => .group e start stop (trees block)

/-- The occurrences of a block. -/
def trees : List Derivation → List Occurrence
  | [] => []
  | d :: rest => d.tree :: trees rest

/-- The occurrences of several blocks in a row. -/
def treesOfBlocks : List (List Derivation) → List Occurrence
  | [] => []
  | block :: rest => trees block ++ treesOfBlocks rest

end

@[simp] theorem tree_stop (d : Derivation) : d.tree.stop = d.stop := by
  cases d <;> simp only [tree, Occurrence.stop, stop]

end Derivation

/-- Whether an atom matches the tokens from `start` to `stop`, and what it is matched with: the texts
of a literal, a span that is indexed for a regular expression, or an annotation with a token at least
that meets what a tag asks. -/
def Scene.Covers (scene : Scene) (a : Atom) (start stop : Nat) (matched : Option Annotation) :
    Prop :=
  match a with
  | .literal _ texts =>
    ((scene.tokens.drop start).take texts.length).map (·.text) = texts
      ∧ stop = start + texts.length ∧ matched = none
  | .regex source =>
    ∃ a ∈ scene.spans source start, stop = a.start + a.size ∧ matched = some a
  | .tag tag =>
    ∃ a ∈ scene.annotations tag.type start,
      0 < a.size ∧ scene.accepts tag a ∧ stop = a.start + a.size ∧ matched = some a

/-- Whether derivations follow one another from `start` to `stop` without a gap, where `derives`
tells what a derivation covers. -/
def Chained (derives : Nat → Nat → Derivation → Prop) (start stop : Nat) :
    List Derivation → Prop
  | [] => start = stop
  | d :: rest => ∃ mid, derives start mid d ∧ Chained derives mid stop rest

/-- The occurrences of one element in a row: they follow one another without a gap, their number is
within bounds, and only those that the minimum asks for may be empty. -/
structure IsBlock (derives : Nat → Nat → Derivation → Prop) (bounds : Bounds) (start stop : Nat)
    (block : List Derivation) : Prop where
  chained : Chained derives start stop block
  enough : bounds.min ≤ block.length
  within : block.length ≤ bounds.max
  lean : ∀ i d, block[i]? = some d → d.start = d.stop → i < bounds.min

mutual

/-- Whether a derivation is one occurrence of an element over the tokens from `start` to `stop`. -/
def Derives (scene : Scene) : Element → Nat → Nat → Derivation → Prop
  | .atom a s => fun start stop d =>
    ∃ matched, scene.Covers a start stop matched ∧ d = .leaf (.atom a s) start stop matched
  | .sequence children s => fun start stop d =>
    ∃ blocks, DerivesRow scene children start stop blocks
      ∧ d = .all (.sequence children s) start stop blocks
  | .choice branches s => fun start stop d =>
    ∃ branch block, DerivesBranch scene branches branch start stop block
      ∧ d = .one (.choice branches s) start stop branch block

/-- Whether blocks make up elements in a row, one block for each element. -/
def DerivesRow (scene : Scene) : List Element → Nat → Nat → List (List Derivation) → Prop
  | [] => fun start stop blocks => start = stop ∧ blocks = []
  | e :: es => fun start stop blocks =>
    ∃ mid block rest, IsBlock (Derives scene e) e.bounds start mid block
      ∧ DerivesRow scene es mid stop rest ∧ blocks = block :: rest

/-- Whether a block makes up the branch with a number. -/
def DerivesBranch (scene : Scene) : List Element → Nat → Nat → Nat → List Derivation → Prop
  | [] => fun _ _ _ _ => False
  | b :: bs => fun branch start stop block =>
    match branch with
    | 0 => IsBlock (Derives scene b) b.bounds start stop block
    | branch + 1 => DerivesBranch scene bs branch start stop block

end

end SpanSearch.Search
