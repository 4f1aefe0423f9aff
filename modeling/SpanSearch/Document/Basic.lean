import SpanSearch.Index.Basic
import SpanSearch.Tokenizer

/-! # Documents

A document is a sequence of tokens with annotations on it. Its edits keep the annotations on the
tokens that they cover. Each edit tells what it changed by events, and leaves the document as it is
if it fails.
-/

namespace SpanSearch

/-- A change to a document. -/
inductive Event where
  /-- Tokens were inserted or removed, and annotations moved with them. -/
  | tokens
  | added (a : Annotation)
  | removed (a : Annotation)
  /-- The type of the annotation was `oldType` before. -/
  | retyped (oldType : String) (a : Annotation)
  /-- An attribute of the annotation was set. -/
  | changed (a : Annotation)
  deriving DecidableEq

/-- Why an edit fails. -/
inductive EditFault where
  | spanExceeds
  | identifierInUse
  | unknownIdentifier (id : String)
  | noToken
  | noPlace
  | noRange
  deriving DecidableEq

/-- The wording of a fault. -/
def EditFault.message : EditFault → String
  | spanExceeds => "Document::annotate(): annotation span exceeds the token sequence"
  | identifierInUse => "Document::annotate(): annotation identifier is already in use"
  | unknownIdentifier id => s!"No such item: {id} (Document annotation)"
  | noToken => "Document::set_token_flag(): token index out of bounds"
  | noPlace => "Document::insert_tokens(): insertion point out of bounds"
  | noRange => "Document::remove_tokens(): range out of bounds"

/-- Tokens with annotations on them. Text that is inserted is cut by the tokenizer. -/
structure Document where
  tokens : List Token
  annotations : List Annotation
  tokenizer : Tokenizer

namespace Document

/-- What an edit gives: an answer, the document after it, and what was changed. -/
abbrev Edit (α : Type) := Except EditFault (α × Document × List Event)

/-- A document without annotations. -/
def ofTokens (tokenizer : Tokenizer) (tokens : List Token) : Document := ⟨tokens, [], tokenizer⟩

/-- The document of a text. -/
def ofText (tokenizer : Tokenizer) (text : String) : Document :=
  ofTokens tokenizer (tokenizer.tokens text)

/-- The annotation with an identifier. -/
def find? (d : Document) (id : String) : Option Annotation :=
  d.annotations.find? (·.id == some id)

/-- The annotations of a type in document order. -/
def ofType (d : Document) (type : String) : List Annotation :=
  Annotation.sort (d.annotations.filter (·.type == type))

/-- The types of the annotations in ascending order. -/
def types (d : Document) : List String := (TextSet.ofTexts (d.annotations.map (·.type))).keys

/-- The document as a source of annotations. -/
def source (d : Document) : Source := ⟨d.ofType, d.types⟩

/-- Puts an annotation on the document. If it has no identifier, it gets the one that is `fresh`. -/
def annotate (d : Document) (fresh : String) (a : Annotation) : Edit String :=
  if d.tokens.length < a.stop then .error .spanExceeds
  else
    let id := a.id.getD fresh
    if (d.find? id).isSome then .error .identifierInUse
    else
      let a := { a with id := some id }
      .ok (id, { d with annotations := d.annotations ++ [a] }, [.added a])

/-- Takes an annotation off the document. -/
def remove (d : Document) (id : String) : Edit Annotation :=
  match d.find? id with
  | none => .error (.unknownIdentifier id)
  | some a =>
    .ok (a, { d with annotations := d.annotations.eraseP (·.id == some id) }, [.removed a])

/-- The annotations with the first replaced that has an identifier. -/
def replaceFirst (id : String) (a : Annotation) : List Annotation → List Annotation
  | [] => []
  | b :: rest => if b.id == some id then a :: rest else b :: replaceFirst id a rest

/-- Gives an annotation another type. -/
def retype (d : Document) (id type : String) : Edit Unit :=
  match d.find? id with
  | none => .error (.unknownIdentifier id)
  | some old =>
    if old.type = type then .ok ((), d, [])
    else
      let a := { old with type := type }
      .ok ((), { d with annotations := replaceFirst id a d.annotations }, [.retyped old.type a])

/-- Sets an attribute of an annotation. -/
def setAttribute (d : Document) (id name value : String) : Edit Unit :=
  match d.find? id with
  | none => .error (.unknownIdentifier id)
  | some old =>
    let a := old.set name value
    .ok ((), { d with annotations := replaceFirst id a d.annotations }, [.changed a])

/-- Sets a flag on the token at an offset. Flags are no part of what events tell. -/
def setFlag (d : Document) (place : Nat) (flag : String) : Edit Unit :=
  if place < d.tokens.length then
    let tokens := d.tokens.modify place fun token => { token with flags := token.flags.add flag }
    .ok ((), { d with tokens := tokens }, [])
  else .error .noToken

end Document

/-- The tokens with a blank after the last if nothing is there. -/
def Token.spaceLast (tokens : List Token) : List Token := tokens.modify (tokens.length - 1) spaced

/-- The annotation after `count` tokens were inserted at an offset. It covers them if they are
inside of it. -/
def Annotation.afterInsertion (place count : Nat) (a : Annotation) : Annotation :=
  if place ≤ a.start then { a with start := Offset.add a.start count }
  else if place < a.stop then { a with size := Offset.add a.size count }
  else a

/-- How many tokens of the annotation are in a range. -/
def Annotation.overlap (start stop : Nat) (a : Annotation) : Nat :=
  min a.stop stop - max a.start start

/-- The annotation after the tokens of a range were removed. -/
def Annotation.afterRemoval (start stop : Nat) (a : Annotation) : Annotation :=
  { a with
    start :=
      if stop ≤ a.start then a.start - (stop - start)
      else if start ≤ a.start then start
      else a.start
    size := a.size - a.overlap start stop }

namespace Document

/-- Inserts the tokens of a text at an offset, and gives their number. A blank keeps them apart from
their neighbours where there is no white space. -/
def insert (d : Document) (place : Nat) (text : String) : Edit Nat :=
  if d.tokens.length < place then .error .noPlace
  else
    let inserted := d.tokenizer.tokens text
    if inserted.isEmpty then .ok (0, d, [])
    else
      let before := Token.spaceLast (d.tokens.take place)
      let after := d.tokens.drop place
      let inserted := if after.isEmpty then inserted else Token.spaceLast inserted
      .ok (inserted.length,
        { d with
          tokens := before ++ inserted ++ after
          annotations := d.annotations.map (·.afterInsertion place inserted.length) },
        [.tokens])

/-- Removes `count` tokens from an offset on, and the annotations of which no token is left. -/
def removeTokens (d : Document) (start count : Nat) : Edit Unit :=
  let stop := start + count
  if d.tokens.length < stop || Offset.limit ≤ stop then .error .noRange
  else if count = 0 then .ok ((), d, [])
  else
    let isLost := fun (a : Annotation) => (a.afterRemoval start stop).size == 0
    .ok ((),
      { d with
        tokens := d.tokens.take start ++ d.tokens.drop stop
        annotations := (d.annotations.filter (!isLost ·)).map (·.afterRemoval start stop) },
      (d.annotations.filter isLost).map .removed ++ [.tokens])

end Document

end SpanSearch
