import SpanSearch.Config
import SpanSearch.Document.Basic
import SpanSearch.Json.Printer
import SpanSearch.Json.Reader

/-! # Records in JSON

How configurations, annotations, tokens and documents stand in JSON. Fields that may be left out are
written only if there is something to write, except for the fields of a configuration and the
annotations of a document.
-/

namespace SpanSearch

open Json

/-- The fields of a configuration. -/
def Config.fields : List (RecordField Config) := [
  field "debug" false Reader.boolean fun b config => { config with debug := b },
  field "cache_capacity" false Reader.natural fun n config => { config with cacheCapacity := n },
  field "regex_max_tokens" false Reader.natural fun n config => { config with regexTokens := n },
  field "default_separator" false Reader.text fun s config => { config with separator := s },
  field "enumeration_max_rounds" false Reader.natural fun n config =>
    { config with enumerationRounds := n }]

/-- Reads a configuration. -/
def Config.read : Reader Config := Reader.record Config.fields {}

/-- A configuration as it is written. -/
def Config.toTree (config : Config) : Tree :=
  .object [
    ("debug", .bool config.debug),
    ("cache_capacity", .number config.cacheCapacity),
    ("regex_max_tokens", .number config.regexTokens),
    ("default_separator", .text config.separator),
    ("enumeration_max_rounds", .number config.enumerationRounds)]

/-- Attributes as they are written. -/
def Attributes.toTree (attributes : Attributes) : Tree :=
  .object (attributes.entries.map fun (name, value) => (name, .text value))

/-- The fields of an annotation. -/
def Annotation.fields : List (RecordField Annotation) := [
  field "@id" false Reader.optionalText fun id a => { a with id := id },
  field "type" true Reader.text fun type a => { a with type := type },
  field "begin" true Reader.natural fun start a => { a with start := start },
  field "size" true Reader.natural fun size a => { a with size := size },
  field "attributes" false (Reader.table Reader.text)
    fun attributes a => { a with attributes := attributes }]

/-- Reads an annotation. -/
def Annotation.read : Reader Annotation := Reader.record Annotation.fields default

/-- An annotation as it is written. -/
def Annotation.toTree (a : Annotation) : Tree :=
  .object (
    (a.id.map fun id => ("@id", Tree.text id)).toList
      ++ [("type", .text a.type), ("begin", .number a.start), ("size", .number a.size)]
      ++ if a.attributes.isEmpty then [] else [("attributes", a.attributes.toTree)])

/-- The fields of a token. -/
def Token.fields : List (RecordField Token) := [
  field "text" true Reader.text fun s token => { token with text := s },
  field "whitespace" false Reader.text fun s token => { token with space := s },
  field "flags" false (Reader.list Reader.text)
    fun flags token => { token with flags := TextSet.ofTexts flags }]

/-- Reads a token. -/
def Token.read : Reader Token := Reader.record Token.fields (Token.ofText "")

/-- A token as it is written. -/
def Token.toTree (token : Token) : Tree :=
  .object (
    [("text", .text token.text)]
      ++ (if token.space.isEmpty then [] else [("whitespace", .text token.space)])
      ++ if token.flags.isEmpty then [] else [("flags", .list (token.flags.keys.map .text))])

/-- The fields of a document. -/
def Document.fields : List (RecordField Document) := [
  field "tokens" true (Reader.list Token.read) fun tokens d => { d with tokens := tokens },
  field "annotations" false (Reader.list Annotation.read) fun annotations d =>
    { d with annotations := annotations }]

/-- Reads a document, which has the standard tokenizer. Its annotations are not checked. -/
def Document.read : Reader Document := Reader.record Document.fields (.ofTokens .standard [])

/-- A document as it is written. -/
def Document.toTree (d : Document) : Tree :=
  .object [
    ("tokens", .list (d.tokens.map Token.toTree)),
    ("annotations", .list (d.annotations.map Annotation.toTree))]

end SpanSearch
