import SpanSearch.Unicode.Space

/-! # The layout of patterns

Two ways of laying out the text of a pattern without compiling it: over several lines, with the
contents of groups indented, and on one line with as few blanks as possible. Both divide the text
into segments, and leave quoted text as it is. They work on any text, also on one that is no
pattern.
-/

namespace SpanSearch.Layout

open Unicode

/-- A piece of the text of a pattern, as far as its layout is concerned. -/
inductive Segment where
  /-- Text between delimiters, with them: quoted text, a tag, an expression or a separator of a
  setter, a quantifier in braces. -/
  | verbatim (text : List Char)
  /-- A character outside of all these. -/
  | mark (c : Char)
  /-- White space outside of all these. -/
  | space
  deriving DecidableEq

/-- Whether the character is a quote. -/
def isQuote (c : Char) : Bool := c == '\'' || c == '"'

/-- Splits off the text up to the delimiter that closes one that is open already, and with it. A
backslash takes the next character along. `depth` counts the other delimiters that are open, and
`quote` is the quote that is open, if `nested` lets quoted text stand inside. Where the delimiter
is missing, all the text is split off. -/
def splitDelimited (opening closing : Char) (nested : Bool) (depth : Nat) (quote : Option Char) :
    List Char → List Char × List Char
  | [] => ([], [])
  | ['\\'] => (['\\'], [])
  | '\\' :: c :: rest =>
    let (text, after) := splitDelimited opening closing nested depth quote rest
    ('\\' :: c :: text, after)
  | c :: rest =>
    let pass := fun depth quote =>
      let (text, after) := splitDelimited opening closing nested depth quote rest
      (c :: text, after)
    match quote with
    | some q => pass depth (if c == q then none else some q)
    | none =>
      if nested && isQuote c then pass depth (some c)
      else if c == closing then
        match depth with
        | 0 => ([c], rest)
        | depth + 1 => pass depth none
      else if c == opening then pass (depth + 1) none
      else pass depth none

theorem splitDelimited_length (opening closing : Char) (nested : Bool) (depth : Nat)
    (quote : Option Char) (cs : List Char) :
    (splitDelimited opening closing nested depth quote cs).2.length ≤ cs.length := by
  fun_induction splitDelimited opening closing nested depth quote cs <;> grind

/-- The delimiter that closes what a character opens, and whether quoted text may stand inside. -/
def closing? (c : Char) : Option (Char × Bool) :=
  if isQuote c then some (c, false)
  else if c == '<' then some ('>', true)
  else if c == '[' then some (']', false)
  else if c == '{' then some ('}', false)
  else none

/-- The segments of a text. -/
def segments : List Char → List Segment
  | [] => []
  | '@' :: '(' :: rest =>
    let split := splitDelimited '(' ')' true 0 none rest
    .verbatim ('@' :: '(' :: split.1) :: segments split.2
  | c :: rest =>
    if isSpace c then .space :: segments (trimStart rest)
    else
      match closing? c with
      | some (closing, nested) =>
        let split := splitDelimited c closing nested 0 none rest
        .verbatim (c :: split.1) :: segments split.2
      | none => .mark c :: segments rest
termination_by cs => cs.length
decreasing_by
  · have := splitDelimited_length '(' ')' true 0 none rest
    simp only [List.length_cons]
    omega
  · have : (trimStart rest).length ≤ rest.length := (List.dropWhile_suffix _).length_le
    simp only [List.length_cons]
    omega
  · have := splitDelimited_length c closing nested 0 none rest
    simp only [List.length_cons]
    omega
  · simp

theorem segments_nil : segments [] = [] := by rw [segments]

theorem segments_scope {rest text after : List Char}
    (split : splitDelimited '(' ')' true 0 none rest = (text, after)) :
    segments ('@' :: '(' :: rest) = .verbatim ('@' :: '(' :: text) :: segments after := by
  rw [segments, split]

/-- What does not open a scope is white space, opens a text, or stands for itself. -/
theorem segments_cons {c : Char} {rest : List Char} (notScope : c = '@' → rest.head? ≠ some '(') :
    segments (c :: rest)
      = if isSpace c then .space :: segments (trimStart rest)
        else
          match closing? c with
          | some (closing, nested) =>
            let split := splitDelimited c closing nested 0 none rest
            .verbatim (c :: split.1) :: segments split.2
          | none => .mark c :: segments rest := by
  rw [segments]
  rintro tail rfl rfl
  exact notScope rfl rfl

/-- Whether the segment belongs to the element before it, as quantifiers and setters do. -/
def Segment.isSuffix : Segment → Bool
  | mark c => c == '?' || c == '*' || c == '+' || c == '@' || c == ':'
  | verbatim text =>
    text.head? == some '{' || text.head? == some '[' || ['@', '('].isPrefixOf text
  | space => false

/-- Whether an element starts with the text. -/
def startsElement (text : List Char) : Bool := text.head?.any fun c => c == '<' || isQuote c

/-- The lines of a text, each with the depth it stands at, where `line` has been written already on
the one that is open at `depth`. -/
def lines (depth : Nat) (line : List Char) : List Segment → List (Nat × List Char)
  | [] => [(depth, line)]
  | .space :: rest =>
    if rest.head?.any Segment.isSuffix then lines depth line rest
    else (depth, line) :: lines depth [] rest
  | .mark c :: rest =>
    if c == '(' then (depth, line) :: (depth, ['(']) :: lines (depth + 1) [] rest
    else if c == ')' then (depth, line) :: lines (depth - 1) [')'] rest
    else if c == '|' then (depth, line) :: (depth - 1, ['|']) :: lines depth [] rest
    else lines depth (line ++ [c]) rest
  | .verbatim text :: rest =>
    if startsElement text && !(trim line).isEmpty && line.getLast? != some ':' then
      (depth, line) :: lines depth text rest
    else lines depth (line ++ text) rest

/-- A line with its indentation and its end. An empty line vanishes. -/
def writeLine (line : Nat × List Char) : List Char :=
  let text := trim line.2
  if text.isEmpty then [] else List.replicate line.1 '\t' ++ text ++ ['\n']

/-- The layout over several lines: one line for each element, the contents of groups indented by
one tab more, and bars on lines of their own. -/
def explode (source : String) : String :=
  String.ofList ((lines 0 [] (segments source.toList)).flatMap writeLine)

/-- The text of a tag with white space outside of quotes reduced to single blanks, and without it at
the brackets and around equals signs. `last` is the character before, and `pending` says whether
white space is due after it. -/
def collapse (quote : Option Char) (last : Option Char) (pending : Bool) : List Char → List Char
  | [] => []
  | c :: rest =>
    match quote with
    | some q =>
      match c, rest with
      | '\\', d :: rest => '\\' :: d :: collapse quote (some d) false rest
      | c, rest => c :: collapse (if c == q then none else some q) (some c) false rest
    | none =>
      if isSpace c then collapse none last true rest
      else
        let text := c :: collapse (if isQuote c then some c else none) (some c) false rest
        if pending && last != some '<' && last != some '=' && c != '>' && c != '=' then ' ' :: text
        else text

/-- The text of a segment on one line. -/
def Segment.oneLine : Segment → List Char
  | mark c => [c]
  | space => []
  | verbatim text =>
    if text.head? == some '<' then collapse none none false text
    else if text.head? == some '{' then text.filter (!isSpace ·)
    else text

/-- Whether white space between a character and a segment stays. -/
def separates (last : Char) (next : Segment) : Bool :=
  last != '(' && last != '|' && next != .mark ')' && next != .mark '|' && !next.isSuffix

/-- Segments on one line, where `last` is the character before, if there is one, and `pending` says
whether white space is due after it. -/
def oneLine (last : Option Char) (pending : Bool) : List Segment → List Char
  | [] => []
  | .space :: rest => oneLine last true rest
  | segment :: rest =>
    let text := segment.oneLine
    let text := text ++ oneLine text.getLast? false rest
    if pending && last.any (separates · segment) then ' ' :: text else text

/-- The layout on one line: white space outside of quoted text is reduced to single blanks, and
vanishes inside parentheses, around bars, and before quantifiers and setters. -/
def normalize (source : String) : String :=
  String.ofList (oneLine none false (segments source.toList))

end SpanSearch.Layout
