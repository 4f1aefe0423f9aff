import SpanSearch.Regex.Basic
import SpanSearch.Split
import SpanSearch.Unicode.Fold
import SpanSearch.Unicode.Property
import SpanSearch.Unicode.Space

/-! # Reading escapes and classes

The parts of a regular expression that stand for one character or for a set of characters. What is
read depends on the options that are in force: whether case counts, whether sets go through all
scripts, and whether blanks and comments are passed over.
-/

namespace SpanSearch

open Unicode

/-- The options under which a part of a regular expression is read. -/
structure RegexOptions where
  ignoreCase : Bool
  manyLines : Bool
  dotAll : Bool
  swapGreed : Bool
  wide : Bool
  returns : Bool
  spaced : Bool
  deriving DecidableEq

/-- The options at the start of an expression. -/
def RegexOptions.initial : RegexOptions := ⟨false, false, false, false, true, false, false⟩

namespace Regex

/-- What follows a comment: the rest of the text after the end of the line. -/
def skipComment : List Char → List Char
  | [] => []
  | c :: rest => if c == '\n' then rest else skipComment rest

theorem skipComment_length (cs : List Char) : (skipComment cs).length ≤ cs.length := by
  induction cs with
  | nil => simp [skipComment]
  | cons c rest ih =>
    simp only [skipComment]
    split <;> simp only [List.length_cons] <;> omega

/-- Passes over blanks and comments, if the expression may be laid out with them. -/
def skip (spaced : Bool) (cs : List Char) : List Char :=
  if spaced then skipLayout cs else cs
where
  /-- Passes over blanks and comments. -/
  skipLayout (cs : List Char) : List Char :=
    match cs with
    | [] => []
    | c :: rest =>
      if isSpace c then skipLayout rest
      else if c == '#' then skipLayout (skipComment rest)
      else c :: rest
  termination_by cs.length
  decreasing_by
    · simp
    · have := skipComment_length rest
      simp only [List.length_cons]
      omega

/-- The value of hexadecimal digits. -/
def hexNumber (digits : List Char) : Nat :=
  digits.foldl (fun n d => 16 * n + (Number.hexValue? d).getD 0) 0

/-- The character with the code that hexadecimal digits write, if it is one. -/
def hexChar? (digits : List Char) : Option Char :=
  let n := hexNumber digits
  if digits.isEmpty || !n.isValidChar then none else some (Char.ofNat n)

/-- Reads just `count` hexadecimal digits. -/
def readHexDigits (spaced : Bool) : (count : Nat) → List Char → Option (List Char × List Char)
  | 0, cs => some ([], cs)
  | count + 1, cs =>
    match cs with
    | [] => none
    | c :: rest =>
      if (Number.hexValue? c).isNone then none
      else
        (readHexDigits spaced count (skip spaced rest)).map fun (digits, rest) =>
          (c :: digits, rest)

/-- Reads characters up to a closing brace. -/
def readBraced (spaced : Bool) : (fuel : Nat) → List Char → Option (List Char × List Char)
  | 0, _ => none
  | fuel + 1, cs =>
    match skip spaced cs with
    | [] => none
    | c :: rest =>
      if c == '}' then some ([], rest)
      else (readBraced spaced fuel rest).map fun (text, rest) => (c :: text, rest)

/-- What stands for one character, for a set of characters or for a condition. -/
inductive Symbol where
  /-- A character. If it is written by two hexadecimal digits, it may be meant as a byte. -/
  | char (c : Char) (asByte : Bool)
  | set (set : CharSet)
  | look (look : Look)

/-- Reads the code of a character after `\x`, `\u` or `\U`. -/
def readHex (spaced : Bool) (kind : Char) (cs : List Char) : Option (Symbol × List Char) :=
  match skip spaced cs with
  | '{' :: rest => do
    let (digits, rest) ← readBraced spaced (rest.length + 1) rest
    if digits.any fun d => (Number.hexValue? d).isNone then none
    else
      let c ← hexChar? digits
      some (.char c false, rest)
  | cs => do
    let count := if kind == 'x' then 2 else if kind == 'u' then 4 else 8
    let (digits, rest) ← readHexDigits spaced count cs
    let c ← hexChar? digits
    some (.char c (kind == 'x'), rest)

/-- The class that a name in braces stands for: a name, or a property and a value. -/
def classOfName? (name : List Char) : Option CharSet :=
  let valued (parts : List Char × List Char) :=
    valuedClass? (String.ofList parts.1) (String.ofList parts.2)
  match splitOnce "!=".toList name with
  | some parts => valued parts
  | none =>
    match splitOnce [':'] name with
    | some parts => valued parts
    | none =>
      match splitOnce ['='] name with
      | some parts => valued parts
      | none => namedClass? (String.ofList name)

/-- The set closed under folding if case does not count, and then complemented if asked for.
Without wide sets folding stays within ASCII, and a complement would hold parts of characters, so
there is none. -/
def foldAndNegate (options : RegexOptions) (negated : Bool) (set : CharSet) : Option CharSet :=
  if options.wide then
    let set := if options.ignoreCase then set.foldCase else set
    some (if negated then set.complement else set)
  else if negated then none
  else some (if options.ignoreCase then set.foldAscii else set)

/-- Reads the name of a class after `\p` or `\P`. -/
def readClassName (options : RegexOptions) (negated : Bool) (cs : List Char) :
    Option (Symbol × List Char) := do
  let (name, rest) ← match skip options.spaced cs with
    | [] => none
    | '{' :: rest => readBraced options.spaced (rest.length + 1) rest
    | c :: rest => if c == '\\' then none else some ([c], rest)
  if !options.wide then none
  else
    let set ← classOfName? name
    let set ← foldAndNegate options negated set
    some (.set set, rest)

/-- The class of a short name such as `d`. -/
def shortClass (options : RegexOptions) (c : Char) : Option Symbol :=
  let set :=
    match c.toLower with
    | 'd' => if options.wide then decimalDigits else asciiDigits
    | 's' => if options.wide then spaces else asciiSpaces
    | _ => if options.wide then wordChars else asciiWordChars
  if c.isUpper then if options.wide then some (.set set.complement) else none
  else some (.set set)

/-- Reads the braces that may follow `\b`. They name a special edge of words, unless what they
start with shows that they count repetitions. -/
def readEdge (options : RegexOptions) (cs : List Char) : Option (Look × List Char) :=
  let isEdgeChar (c : Char) : Bool := c.isAlpha || c == '-'
  match cs with
  | '{' :: rest =>
    match skip options.spaced rest with
    | [] => none
    | c :: inner =>
      if !isEdgeChar c then some (.wordEdge options.wide, cs)
      else do
        let (name, rest) ← readBraced options.spaced (inner.length + 2) (c :: inner)
        match String.ofList name with
        | "start" => some (.wordStart options.wide, rest)
        | "end" => some (.wordStop options.wide, rest)
        | "start-half" => some (.noWordBefore options.wide, rest)
        | "end-half" => some (.noWordAfter options.wide, rest)
        | _ => none
  | _ => some (.wordEdge options.wide, cs)

/-- The characters that have a meaning of their own. -/
def isMeta (c : Char) : Bool := "\\.+*?()|[]\x7b\x7d^$#&-~".toList.contains c

/-- Reads what follows a backslash. -/
def readEscape (options : RegexOptions) (cs : List Char) : Option (Symbol × List Char) :=
  match cs with
  | [] => none
  | c :: rest =>
    if c.isDigit then none
    else if c == 'x' || c == 'u' || c == 'U' then readHex options.spaced c rest
    else if c == 'p' || c == 'P' then readClassName options (c == 'P') rest
    else if "dswDSW".toList.contains c then (shortClass options c).map (·, rest)
    else if isMeta c then some (.char c false, rest)
    else if c.toNat < 0x80 && !c.isAlphanum && c != '<' && c != '>' then some (.char c false, rest)
    else
      match c with
      | 'a' => some (.char '\x07' false, rest)
      | 'f' => some (.char '\x0C' false, rest)
      | 't' => some (.char '\t' false, rest)
      | 'n' => some (.char '\n' false, rest)
      | 'r' => some (.char '\r' false, rest)
      | 'v' => some (.char '\x0B' false, rest)
      | 'A' => some (.look .start, rest)
      | 'z' => some (.look .stop, rest)
      | 'b' => (readEdge options rest).map fun (edge, rest) => (.look edge, rest)
      | 'B' => some (.look (.noWordEdge options.wide), rest)
      | '<' => some (.look (.wordStart options.wide), rest)
      | '>' => some (.look (.wordStop options.wide), rest)
      | _ => none

/-- The ranges of the classes with a name of ASCII, such as `alpha`. -/
def asciiClasses : List (String × List (Nat × Nat)) := [
  ("alnum", [(0x30, 0x39), (0x41, 0x5A), (0x61, 0x7A)]),
  ("alpha", [(0x41, 0x5A), (0x61, 0x7A)]),
  ("ascii", [(0x00, 0x7F)]),
  ("blank", [(0x09, 0x09), (0x20, 0x20)]),
  ("cntrl", [(0x00, 0x1F), (0x7F, 0x7F)]),
  ("digit", [(0x30, 0x39)]),
  ("graph", [(0x21, 0x7E)]),
  ("lower", [(0x61, 0x7A)]),
  ("print", [(0x20, 0x7E)]),
  ("punct", [(0x21, 0x2F), (0x3A, 0x40), (0x5B, 0x60), (0x7B, 0x7E)]),
  ("space", [(0x09, 0x0D), (0x20, 0x20)]),
  ("upper", [(0x41, 0x5A)]),
  ("word", [(0x30, 0x39), (0x41, 0x5A), (0x5F, 0x5F), (0x61, 0x7A)]),
  ("xdigit", [(0x30, 0x39), (0x41, 0x46), (0x61, 0x66)])]

/-- The class of a name of ASCII. -/
def asciiClass? (name : String) : Option CharSet :=
  (asciiClasses.lookup name).map fun ranges => ⟨(ranges.flatMap fun (a, b) => [a, b + 1]).toArray⟩

/-- Reads a class such as `[:alpha:]` after its opening bracket, and whether it is negated. There
is none if the text has another form or names no class. -/
def readAsciiClass (cs : List Char) : Option ((CharSet × Bool) × List Char) :=
  match cs with
  | ':' :: rest =>
    let (negated, rest) := match rest with
      | '^' :: rest => (true, rest)
      | rest => (false, rest)
    let name := rest.takeWhile (· != ':')
    match rest.drop name.length with
    | ':' :: ']' :: rest => (asciiClass? (String.ofList name)).map fun set => ((set, negated), rest)
    | _ => none
  | _ => none

/-- An operator between two classes. -/
inductive ClassOp where
  | inter | diff | symmDiff

/-- The class that an operator makes of two. -/
def ClassOp.apply : ClassOp → CharSet → CharSet → CharSet
  | inter => CharSet.inter
  | diff => CharSet.diff
  | symmDiff => CharSet.symmDiff

/-- A class that is being read, with how deep its parts are nested. `left` is the operand of an
operator that waits for its other operand, to which the `count` items in `set` belong. -/
structure OpenClass where
  negated : Bool
  left : Option (ClassOp × CharSet × Nat)
  set : CharSet
  count : Nat
  depth : Nat

namespace OpenClass

/-- A class without items. -/
def start (negated : Bool) : OpenClass := ⟨negated, none, .empty, 0, 0⟩

/-- The class with an item added. -/
def add (cls : OpenClass) (set : CharSet) (depth : Nat) : OpenClass :=
  { cls with set := cls.set.union set, count := cls.count + 1, depth := max cls.depth depth }

/-- The class read so far, with the waiting operator applied. Folding comes before the operator. -/
def operand (options : RegexOptions) (cls : OpenClass) : CharSet × Nat :=
  let depth := if cls.count ≤ 1 then cls.depth else cls.depth + 1
  match cls.left with
  | none => (cls.set, depth)
  | some (op, left, leftDepth) =>
    let fold (set : CharSet) : CharSet :=
      if !options.ignoreCase then set else if options.wide then set.foldCase else set.foldAscii
    (op.apply (fold left) (fold cls.set), max leftDepth depth + 1)

/-- The class after an operator. -/
def operator (options : RegexOptions) (cls : OpenClass) (op : ClassOp) : OpenClass :=
  let (set, depth) := cls.operand options
  { start cls.negated with left := some (op, set, depth) }

/-- The set of a class at its closing bracket, with its depth. -/
def close (options : RegexOptions) (cls : OpenClass) : Option (CharSet × Nat) :=
  let (set, depth) := cls.operand options
  (foldAndNegate options cls.negated set).map (·, depth + 1)

end OpenClass

/-- Reads what follows the opening bracket of a class: whether it is negated, hyphens that stand
for themselves, and a closing bracket that does. -/
def openClass (options : RegexOptions) (cs : List Char) : Option (OpenClass × List Char) := do
  let (negated, cs) := match skip options.spaced cs with
    | '^' :: rest => (true, skip options.spaced rest)
    | cs => (false, cs)
  let (cls, cs) := hyphens cs.length (.start negated) cs
  match cs with
  | [] => none
  | ']' :: rest =>
    if cls.count == 0 then
      match skip options.spaced rest with
      | [] => none
      | cs => some (cls.add (.singleton ']') 0, cs)
    else some (cls, cs)
  | cs => some (cls, cs)
where
  /-- Takes the hyphens at the start of a class. -/
  hyphens : Nat → OpenClass → List Char → OpenClass × List Char
    | fuel + 1, cls, '-' :: rest =>
      hyphens fuel (cls.add (.singleton '-') 0) (skip options.spaced rest)
    | _, cls, cs => (cls, cs)

/-- Reads an item of a class: a character, or what an escape stands for. -/
def readItem (options : RegexOptions) : List Char → Option (Symbol × List Char)
  | [] => none
  | '\\' :: rest => readEscape options rest
  | c :: rest => some (.char c false, rest)

/-- The character that an item of a class stands for. Without wide sets it is an ASCII one. -/
def itemChar? (options : RegexOptions) : Symbol → Option Char
  | .char c _ => if options.wide || c.toNat < 0x80 then some c else none
  | _ => none

/-- The set that an item of a class stands for. -/
def itemSet? (options : RegexOptions) : Symbol → Option CharSet
  | .set members => some members
  | item => (itemChar? options item).map .singleton

/-- Reads an item of a class or a range of two. A hyphen before a closing bracket or before another
hyphen makes no range. -/
def readRange (options : RegexOptions) (cs : List Char) : Option (CharSet × List Char) := do
  let (first, rest) ← readItem options cs
  let single : Option (CharSet × List Char) := do
    let set ← itemSet? options first
    some (set, skip options.spaced rest)
  match skip options.spaced rest with
  | [] => none
  | '-' :: after =>
    match skip options.spaced after with
    | [] => none
    | ']' :: _ => single
    | '-' :: _ => single
    | after =>
      let (second, rest) ← readItem options after
      let lo ← itemChar? options first
      let hi ← itemChar? options second
      if lo ≤ hi then some (.range lo.toNat hi.toNat, rest) else none
  | _ => single

/-- Reads the items of a class up to its closing bracket, and gives its set and its depth. -/
def readItems (options : RegexOptions) : (fuel : Nat) → OpenClass → List Char →
    Option ((CharSet × Nat) × List Char)
  | 0, _, _ => none
  | fuel + 1, cls, cs =>
    match skip options.spaced cs with
    | [] => none
    | ']' :: rest => (cls.close options).map (·, rest)
    | '&' :: '&' :: rest => readItems options fuel (cls.operator options .inter) rest
    | '-' :: '-' :: rest => readItems options fuel (cls.operator options .diff) rest
    | '~' :: '~' :: rest => readItems options fuel (cls.operator options .symmDiff) rest
    | '[' :: rest =>
      match readAsciiClass rest with
      | some ((set, negated), rest) => do
        let set ← foldAndNegate options negated set
        readItems options fuel (cls.add set 0) rest
      | none => do
        let (inner, rest) ← openClass options rest
        let ((set, depth), rest) ← readItems options fuel inner rest
        readItems options fuel (cls.add set depth) rest
    | cs => do
      let (set, rest) ← readRange options cs
      readItems options fuel (cls.add set 0) rest

/-- Reads a class after its opening bracket, and gives its set and its depth. -/
def readClass (options : RegexOptions) (cs : List Char) : Option ((CharSet × Nat) × List Char) := do
  let (cls, rest) ← openClass options cs
  readItems options (rest.length + 1) cls rest

end Regex

end SpanSearch
