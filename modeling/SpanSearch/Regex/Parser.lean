import SpanSearch.Number.Read
import SpanSearch.Regex.Class
import SpanSearch.Regex.Size

/-! # Parsing regular expressions

The syntax is that of expressions without back references and without conditions that look at more
than one character. The groups that are open are kept in a list, so the parser is one loop over the
text. An expression is refused if its parts are nested too deeply, or if it would take up too much
room when all its repetitions are written out.
-/

namespace SpanSearch

open Unicode

namespace Regex

/-- A part that has been read, with how deep its own parts are nested. -/
structure Part where
  regex : Regex
  depth : Nat

/-- What stands in a sequence: a part, or a change of options. -/
abbrev Entry := Option Part

/-- The part that the entries of a sequence make up. The entries come newest first. -/
def Part.ofEntries (entries : List Entry) : Part :=
  match entries with
  | [] => ⟨.empty, 0⟩
  | [entry] => entry.getD ⟨.empty, 0⟩
  | entries =>
    let parts := entries.filterMap id
    { regex := (parts.tail.foldl (fun acc part => .seq part.regex acc)
        ((parts.head?.map (·.regex)).getD .empty))
      depth := parts.foldl (fun depth part => max depth part.depth) 0 + 1 }

/-- The part that branches make up. The branches come newest first, and `last` is the last. -/
def Part.ofBranches (branches : List Part) (last : Part) : Part :=
  match branches with
  | [] => last
  | branches =>
    { regex := branches.foldl (fun acc part => .alt part.regex acc) last.regex
      depth := branches.foldl (fun depth part => max depth part.depth) last.depth + 1 }

/-- A group that is open: what precedes it, and the options that are in force again after it. -/
structure OpenGroup where
  entries : List Entry
  branches : List Part
  options : RegexOptions

/-- How far the parser has come: the options in force, the entries of the open sequence and the
branches before it, newest first, the open groups, and the names of groups. -/
structure Progress where
  options : RegexOptions
  entries : List Entry
  branches : List Part
  groups : List OpenGroup
  names : List (List Char)

namespace Progress

/-- The progress with a part added. -/
def add (p : Progress) (regex : Regex) (depth : Nat) : Progress :=
  { p with entries := some ⟨regex, depth⟩ :: p.entries }

/-- What the open sequence and the branches before it make up. -/
def part (p : Progress) : Part := .ofBranches p.branches (.ofEntries p.entries)

/-- The progress inside a new group. -/
def opened (p : Progress) (options : RegexOptions) : Progress :=
  { p with
    options
    entries := []
    branches := []
    groups := ⟨p.entries, p.branches, p.options⟩ :: p.groups }

/-- The progress after the end of the innermost group. -/
def closed (p : Progress) : Option Progress :=
  match p.groups with
  | [] => none
  | group :: groups =>
    let inner := p.part
    some { p with
      options := group.options, entries := some ⟨inner.regex, inner.depth + 1⟩ :: group.entries
      branches := group.branches, groups }

/-- The progress after a bar. -/
def barred (p : Progress) : Progress :=
  { p with entries := [], branches := .ofEntries p.entries :: p.branches }

/-- The progress with its last part repeated. There has to be one. -/
def repeated (p : Progress) (min : Nat) (max : Option Nat) : Option Progress :=
  match p.entries with
  | some last :: entries =>
    some { p with entries := some ⟨.times last.regex min max, last.depth + 1⟩ :: entries }
  | _ => none

end Progress

/-- The options with one of them set. -/
def setOption (options : RegexOptions) (flag : Char) (value : Bool) : Option RegexOptions :=
  match flag with
  | 'i' => some { options with ignoreCase := value }
  | 'm' => some { options with manyLines := value }
  | 's' => some { options with dotAll := value }
  | 'U' => some { options with swapGreed := value }
  | 'u' => some { options with wide := value }
  | 'R' => some { options with returns := value }
  | 'x' => some { options with spaced := value }
  | _ => none

/-- Reads options up to a colon or a closing parenthesis, each at most once, where those after a
hyphen are unset. Gives the options, the flags seen, and the text from the end mark on. -/
def readOptions (options : RegexOptions) (negating : Bool) (seen : List Char) :
    List Char → Option (RegexOptions × List Char × List Char)
  | [] => none
  | c :: rest =>
    if c == ':' || c == ')' then
      if seen.head? == some '-' then none else some (options, seen, c :: rest)
    else if seen.contains c then none
    else if c == '-' then readOptions options true ('-' :: seen) rest
    else
      match setOption options c (!negating) with
      | some options => readOptions options negating (c :: seen) rest
      | none => none

/-- Reads the name of a group up to its closing angle bracket. -/
def readGroupName (cs : List Char) : Option (List Char × List Char) :=
  let name := cs.takeWhile (· != '>')
  match name, cs.drop name.length with
  | c :: more, _ :: rest =>
    let isFirst := c == '_' || isAlphabetic c
    let isMore (d : Char) : Bool :=
      d == '_' || d == '.' || d == '[' || d == ']' || isAlphanumeric d
    if isFirst && more.all isMore then some (name, rest) else none
  | _, _ => none

/-- Enters a group after its opening parenthesis, or changes the options of the group it stands
in. -/
def openGroup (p : Progress) (cs : List Char) : Option (Progress × List Char) :=
  let named (rest : List Char) : Option (Progress × List Char) := do
    let (name, rest) ← readGroupName rest
    if p.names.contains name then none
    else some ({ p.opened p.options with names := name :: p.names }, rest)
  match skip p.options.spaced cs with
  | '?' :: '=' :: _ => none
  | '?' :: '!' :: _ => none
  | '?' :: '<' :: '=' :: _ => none
  | '?' :: '<' :: '!' :: _ => none
  | '?' :: 'P' :: '<' :: rest => named rest
  | '?' :: '<' :: rest => named rest
  | '?' :: rest => do
    let (options, seen, rest) ← readOptions p.options false [] rest
    match rest with
    | ')' :: rest =>
      if seen.isEmpty then none else some ({ p with options, entries := none :: p.entries }, rest)
    | _ :: rest => some (p.opened options, rest)
    | [] => none
  | cs => some (p.opened p.options, cs)

/-- Reads a number of repetitions with the blanks around it. -/
def readCount (spaced : Bool) (cs : List Char) : Option Nat × List Char :=
  let (digits, rest) := digits cs.length (cs.dropWhile isSpace)
  let rest := blanks rest.length rest
  let n := Number.ofDigits digits
  (if digits.isEmpty || Nat.pow 2 32 ≤ n then none else some n, rest)
where
  /-- Takes digits, between which there may be layout. -/
  digits : Nat → List Char → List Char × List Char
    | fuel + 1, c :: rest =>
      if Number.isDigit c then
        let (ds, rest) := digits fuel (skip spaced rest)
        (c :: ds, rest)
      else ([], c :: rest)
    | _, cs => ([], cs)
  /-- Passes over blanks, after each of which there may be layout. -/
  blanks : Nat → List Char → List Char
    | fuel + 1, c :: rest => if isSpace c then blanks fuel (skip spaced rest) else c :: rest
    | _, cs => cs

/-- Passes over the mark that makes a repetition lazy. -/
def skipLazy : List Char → List Char
  | '?' :: rest => rest
  | cs => cs

/-- Reads counts of repetitions after the opening brace. -/
def readCounts (spaced : Bool) (cs : List Char) : Option ((Nat × Option Nat) × List Char) :=
  match skip spaced cs with
  | [] => none
  | cs =>
    match readCount spaced cs with
    | (some min, '}' :: rest) => some ((min, some min), skipLazy (skip spaced rest))
    | (some min, ',' :: rest) =>
      match skip spaced rest with
      | '}' :: rest => some ((min, none), skipLazy (skip spaced rest))
      | cs =>
        match readCount spaced cs with
        | (some max, '}' :: rest) =>
          if min ≤ max then some ((min, some max), skipLazy (skip spaced rest)) else none
        | _ => none
    | _ => none

/-- The set of what a point matches. Without wide sets it would match parts of characters. -/
def anyChar? (options : RegexOptions) : Option CharSet :=
  if !options.wide then none
  else if options.dotAll then some .full
  else if options.returns then some ((CharSet.ofCodes [0x0A, 0x0D]).complement)
  else some (CharSet.singleton '\n').complement

/-- The set of what a character matches. -/
def charSet (options : RegexOptions) (c : Char) : CharSet :=
  if !options.ignoreCase then .singleton c
  else if options.wide then (CharSet.singleton c).foldCase
  else (CharSet.singleton c).foldAscii

/-- The expression of a symbol. A byte that is no ASCII character is not one of text. -/
def Symbol.regex? (options : RegexOptions) : Symbol → Option Regex
  | .char c asByte =>
    if asByte && !options.wide && 0x80 ≤ c.toNat then none else some (.chars (charSet options c))
  | .set members => some (.chars members)
  | .look edge => some (.look edge)

/-- Reads the expression to its end. -/
def parseFrom : (fuel : Nat) → Progress → List Char → Option Part
  | 0, _, _ => none
  | fuel + 1, p, cs =>
    let options := p.options
    match skip options.spaced cs with
    | [] => if p.groups.isEmpty then some p.part else none
    | c :: rest =>
      match c with
      | '(' => (openGroup p rest).bind fun (p, rest) => parseFrom fuel p rest
      | ')' => p.closed.bind fun p => parseFrom fuel p rest
      | '|' => parseFrom fuel p.barred rest
      | '[' =>
        (readClass options rest).bind fun ((set, depth), rest) =>
          parseFrom fuel (p.add (.chars set) depth) rest
      | '?' => (p.repeated 0 (some 1)).bind fun p => parseFrom fuel p (skipLazy rest)
      | '*' => (p.repeated 0 none).bind fun p => parseFrom fuel p (skipLazy rest)
      | '+' => (p.repeated 1 none).bind fun p => parseFrom fuel p (skipLazy rest)
      | '{' =>
        (readCounts options.spaced rest).bind fun ((min, max), rest) =>
          (p.repeated min max).bind fun p => parseFrom fuel p rest
      | '.' => (anyChar? options).bind fun set => parseFrom fuel (p.add (.chars set) 0) rest
      | '^' =>
        let look := if options.manyLines then .lineStart options.returns else .start
        parseFrom fuel (p.add (.look look) 0) rest
      | '$' =>
        let look := if options.manyLines then .lineStop options.returns else .stop
        parseFrom fuel (p.add (.look look) 0) rest
      | '\\' =>
        (readEscape options rest).bind fun (symbol, rest) =>
          (symbol.regex? options).bind fun regex => parseFrom fuel (p.add regex 0) rest
      | c => parseFrom fuel (p.add (.chars (charSet options c)) 0) rest

/-- The greatest depth to which parts may be nested. -/
def maxDepth : Nat := 250

/-- The regular expression that a text writes, if it writes one that is not too deep and not too
large. -/
def parse? (text : List Char) : Option Regex :=
  match parseFrom (text.length + 1) ⟨.initial, [], [], [], []⟩ text with
  | some part =>
    if part.depth ≤ maxDepth && part.regex.space ≤ spaceLimit then some part.regex else none
  | none => none

end Regex

end SpanSearch
