import SpanSearch.Json.Number
import SpanSearch.Json.Text

/-! # Skipping JSON

A value that is of no use is skipped. It has to be well-formed, but nothing else is asked of it.
Lists and objects that are open stand in a list, so they may be nested to any depth.
-/

namespace SpanSearch.Json

/-- Skips a number, which may not end too early. -/
def skipNumber (cs : List Char) : Except Failure (List Char) :=
  match readNumber cs with
  | .ok (_, rest) => .ok rest
  | .error _ => .error .malformed

/-- Skips a value that is no list and no object. -/
def skipPlain : List Char → Except Failure (List Char)
  | [] => .error .truncated
  | c :: rest =>
    if c == 'n' then readWord "ull".toList rest
    else if c == 't' then readWord "rue".toList rest
    else if c == 'f' then readWord "alse".toList rest
    else if c == '"' then (readText true rest).map (·.2)
    else if c == '-' || Number.isDigit c then skipNumber (c :: rest)
    else .error .malformed

/-- What may come next in the innermost list or object that is open. -/
inductive Place where
  /-- A value. -/
  | value
  /-- A key with its value. -/
  | key
  /-- What may follow the opening bracket. -/
  | first
  /-- What may follow a value. -/
  | next
  deriving DecidableEq

/-- Skips a key and the colon after it. -/
def skipKey (cs : List Char) : Except Failure (List Char) :=
  match skipBlank cs with
  | [] => .error .truncated
  | c :: rest =>
    if c == '"' then
      match readText true rest with
      | .error failure => .error failure
      | .ok (_, rest) =>
        match skipBlank rest with
        | [] => .error .truncated
        | c :: rest => if c == ':' then .ok rest else .error .malformed
    else .error .malformed

/-- Whether the character opens a list or an object. -/
def isOpening (c : Char) : Bool := c == '[' || c == '{'

/-- What closes what a character opens. -/
def closingOf (c : Char) : Char := if c == '[' then ']' else '}'

/-- What comes inside of what a character opens. -/
def placeIn (c : Char) : Place := if c == '[' then .value else .key

/-- Skips up to the end of the outermost value, where `opened` has been opened, the innermost first.
Each step skips a character, so as many steps as characters are enough. -/
def skipFrom : (fuel : Nat) → Place → (opened : List Char) → List Char → Except Failure (List Char)
  | 0, _, _, _ => .error .truncated
  | fuel + 1, .key, opened, cs =>
    match skipKey cs with
    | .error failure => .error failure
    | .ok rest => skipFrom fuel .value opened rest
  | fuel + 1, .value, opened, cs =>
    match skipBlank cs with
    | [] => .error .truncated
    | c :: rest =>
      if isOpening c then skipFrom fuel .first (c :: opened) rest
      else
        match skipPlain (c :: rest) with
        | .error failure => .error failure
        | .ok rest => skipFrom fuel .next opened rest
  | _ + 1, .next, [], cs => .ok cs
  | _ + 1, .first, [], cs => .ok cs
  | fuel + 1, place, open_ :: opened, cs =>
    match skipBlank cs with
    | [] => .error .truncated
    | c :: rest =>
      if c == closingOf open_ then skipFrom fuel .next opened rest
      else if place = .first then skipFrom fuel (placeIn open_) (open_ :: opened) (c :: rest)
      else if c == ',' then skipFrom fuel (placeIn open_) (open_ :: opened) rest
      else .error .malformed

/-- Skips a value. -/
def skipValue (cs : List Char) : Except Failure (List Char) :=
  skipFrom (2 * cs.length + 2) .value [] cs

end SpanSearch.Json
