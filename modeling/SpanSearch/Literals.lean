import SpanSearch.Annotation
import SpanSearch.Config
import SpanSearch.Pattern.Reader

/-! # The spans of regular expressions

Before a pattern is searched for, the spans of its regular expressions are collected. They are
annotations of a type of their own, which is the expression between quotes, so no annotation of a
document can be taken for one.
-/

namespace SpanSearch

/-- The type of the spans of a regular expression. -/
def Regex.spanType (source : String) : String := "\"" ++ source ++ "\""

/-- The regular expression that a text matches from its start to its end if some part matches. -/
def Regex.whole? (source : String) : Option Regex := Regex.parse? (Pattern.wholly source.toList)

/-- The spans of regular expressions. Those of each expression are given for every offset, the
shorter ones first. -/
abbrev Literals := List (String × Array (List Annotation))

namespace Literals

/-- How many tokens a span may have that starts at `start`, where `length` is the number of all
tokens. -/
def room (reach start length : Nat) : Nat := min (Offset.add start reach) length - start

/-- The spans of a regular expression that start at `start`, where `tokens` are those from there
on. -/
def spansFrom (regex : Regex) (type : String) (start room : Nat) (tokens : List Token) :
    List Annotation :=
  ((List.range room).filter fun n =>
    regex.matchesIn (Token.join (tokens.take (n + 1))).toList).map fun n =>
      .ofSpan type start (n + 1)

/-- The spans of a regular expression at each offset from `start` on, where `tokens` are those from
there on. -/
def spans (regex : Regex) (type : String) (reach length : Nat) (start : Nat) :
    List Token → List (List Annotation)
  | [] => []
  | token :: rest =>
    spansFrom regex type start (room reach start length) (token :: rest)
      :: spans regex type reach length (start + 1) rest

/-- The spans of one regular expression. -/
def ofRegex (config : Config) (tokens : List Token) (source : String) :
    Array (List Annotation) :=
  match Regex.whole? source with
  | some regex =>
    (spans regex (Regex.spanType source) config.regexReach tokens.length 0 tokens).toArray
  | none => #[]

/-- The spans of the regular expressions of a pattern. -/
def ofPattern (config : Config) (tokens : List Token) (p : Pattern) : Literals :=
  p.regexes.map fun source => (source, ofRegex config tokens source)

/-- The spans of a regular expression at an offset. -/
def spansAt (literals : Literals) (source : String) (start : Nat) : List Annotation :=
  ((literals.lookup source).bind (·[start]?)).getD []

/-- All the spans, with those of one expression together. -/
def all (literals : Literals) : List Annotation := literals.flatMap fun e => e.2.toList.flatten

/-- The types of the spans, in ascending order. -/
def types (literals : Literals) : List String :=
  (TextSet.ofTexts (literals.all.map (·.type))).keys

end Literals

end SpanSearch
