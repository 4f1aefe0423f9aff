import SpanSearch.Document.Basic
import SpanSearch.Expression.Eval
import SpanSearch.Files
import SpanSearch.Json.Failure
import SpanSearch.Pattern.Parser

/-! # Faults

All that may go wrong, with its kind and its wording.
-/

namespace SpanSearch

/-- The kinds of things that have a text of their own. -/
inductive Kind where
  | annotations | documents | configs | patterns | tokens
  deriving DecidableEq

/-- All kinds. -/
def Kind.all : List Kind := [annotations, documents, configs, patterns, tokens]

/-- The name of a kind. -/
def Kind.name : Kind → String
  | annotations => "Annotation"
  | documents => "Document"
  | configs => "Config"
  | patterns => "Pattern"
  | tokens => "Token"

/-- Where JSON was read from. -/
inductive JsonOrigin where
  | text (kind : Kind)
  | file
  | configFile
  deriving DecidableEq

/-- What is said of an origin in messages. -/
def JsonOrigin.message : JsonOrigin → String
  | text kind => s!"{kind.name} (string): Reading JSON from string"
  | file => "file: Reading JSON from file"
  | configFile => "file: Reading config from file"

/-- Something that went wrong. -/
inductive Fault where
  | pattern (fault : Pattern.Fault)
  | expression (fault : Expression.Fault)
  | evaluation (fault : Expression.NotNumber)
  | edit (fault : EditFault)
  | file (fault : FileFault)
  | json (origin : JsonOrigin) (failure : Json.Failure)
  deriving DecidableEq

namespace Fault

/-- The kind of a fault. -/
def kind : Fault → String
  | pattern (.malformed ..) => "PatternSyntaxError"
  | expression (.malformed ..) => "ExpressionSyntaxError"
  | pattern (.refused _) | expression (.refused _) | evaluation _ => "ExpressionError"
  | edit (.unknownIdentifier _) => "NotFoundError"
  | edit _ | file .isRemote => "IllegalUsage"
  | file _ => "IOError"
  | json .. => "JsonError"

/-- The offset in characters at which a text is malformed. -/
def offset? : Fault → Option Nat
  | pattern (.malformed _ offset) | expression (.malformed _ offset) => some offset
  | _ => none

/-- What went wrong, without the kind. -/
def detail : Fault → String
  | pattern (.malformed cause offset) => s!"{cause.message} (at character {offset})"
  | expression (.malformed cause offset) => s!"{cause.message} (at character {offset})"
  | pattern (.refused message) | expression (.refused message) => message
  | evaluation fault => fault.message
  | edit fault => fault.message
  | file fault => fault.message
  | json origin _ => origin.message

/-- The wording of a fault. Files and JSON are reported by what was being done. -/
def message (fault : Fault) : String :=
  match fault with
  | file .cannotRead | file .cannotWrite | json .. => fault.detail
  | _ => s!"[TapasError] {fault.kind}: {fault.detail}"

end Fault

end SpanSearch
