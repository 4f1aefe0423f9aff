import SpanSearch.Json.Skip
import SpanSearch.Table

/-! # Reading JSON

Values are read from the front of a text as what they are wanted for, so that the first thing that
is wrong is what is reported, be it the form of the text or a value that does not fit. What follows
the value is left alone.
-/

namespace SpanSearch.Json

/-- Why no value of the kind that is wanted can be read. A value of another kind is read first, as
far as its first character tells that it is a plain one. -/
def refusal (cs : List Char) : Failure :=
  match cs with
  | [] => .truncated
  | c :: rest =>
    if isOpening c then .unfit []
    else
      let read : Except Failure Unit :=
        if c == '"' then (readText false rest).map fun _ => ()
        else if c == '-' || Number.isDigit c then
          match readNumber cs with
          | .error failure => .error failure
          | .ok (n, _) => if n.isTooLarge then .error .malformed else .ok ()
        else (skipPlain cs).map fun _ => ()
      match read with
      | .error failure => failure
      | .ok () => .unfit []

/-- Reads a text. -/
def Reader.text : Reader String := fun cs =>
  match skipBlank cs with
  | '"' :: rest => Reader.map String.ofList (readText false) rest
  | cs => .error (refusal cs)

/-- Reads a text, or nothing where there is `null`. -/
def Reader.optionalText : Reader (Option String) := fun cs =>
  match skipBlank cs with
  | 'n' :: rest => (readWord "ull".toList rest).map (none, ·)
  | cs => Reader.map some Reader.text cs

/-- Reads a truth value. -/
def Reader.boolean : Reader Bool := fun cs =>
  match skipBlank cs with
  | 't' :: rest => (readWord "rue".toList rest).map (true, ·)
  | 'f' :: rest => (readWord "alse".toList rest).map (false, ·)
  | cs => .error (refusal cs)

/-- Reads a natural number below the limit of offsets. -/
def Reader.natural : Reader Nat := fun cs =>
  let cs := skipBlank cs
  match readNumber cs with
  | .error _ => .error (refusal cs)
  | .ok (n, rest) =>
    match n.natural? with
    | some value => .ok (value, rest)
    | none => .error (refusal cs)

/-- Goes on to the next item of a list, if there is one. `first` tells whether none has been
read. -/
def nextItem (first : Bool) (cs : List Char) : Except Failure (Bool × List Char) :=
  match skipBlank cs with
  | [] => .error .truncated
  | c :: rest =>
    if c == ']' then .ok (false, c :: rest)
    else if first then .ok (true, c :: rest)
    else if c == ',' then
      match skipBlank rest with
      | [] => .error .truncated
      | d :: rest => if d == ']' then .error .malformed else .ok (true, d :: rest)
    else .error .malformed

/-- Reads the items of a list from number `n` on, and the closing bracket. Each item has a
character, so as many steps as characters are enough. -/
def readItems (item : Reader α) : (fuel n : Nat) → Reader (List α)
  | 0, _, _ => .error .truncated
  | fuel + 1, n, cs =>
    match nextItem (n == 0) cs with
    | .error failure => .error failure
    | .ok (false, rest) => .ok ([], rest.drop 1)
    | .ok (true, cs) =>
      match Reader.at (.index n) item cs with
      | .error failure => .error failure
      | .ok (value, cs) => Reader.map (value :: ·) (readItems item fuel (n + 1)) cs

/-- Reads a list. -/
def Reader.list (item : Reader α) : Reader (List α) := fun cs =>
  match skipBlank cs with
  | '[' :: rest => readItems item (rest.length + 1) 0 rest
  | cs => .error (refusal cs)

/-- Goes on to the next key of an object, if there is one, and reads it. `first` tells whether none
has been read. -/
def nextKey (first : Bool) (cs : List Char) : Except Failure (Option String × List Char) :=
  match skipBlank cs with
  | [] => .error .truncated
  | c :: rest =>
    if c == '}' then .ok (none, rest)
    else if !first && c == ',' then
      match skipBlank rest with
      | [] => .error .truncated
      | c :: rest => readKey c rest
    else if first then readKey c rest
    else .error .malformed
where
  /-- Reads a key that starts with `c`. -/
  readKey (c : Char) (rest : List Char) : Except Failure (Option String × List Char) :=
    if c == '"' then Reader.map (fun key => some (String.ofList key)) (readText false) rest
    else .error .malformed

/-- Reads the colon after a key. -/
def readColon (cs : List Char) : Except Failure (List Char) :=
  match skipBlank cs with
  | [] => .error .truncated
  | c :: rest => if c == ':' then .ok rest else .error .malformed

/-- Reads the members of an object and its closing brace. -/
def readMembers (value : Reader α) : (fuel : Nat) → (first : Bool) → (found : Table α) →
    Reader (Table α)
  | 0, _, _, _ => .error .truncated
  | fuel + 1, first, found, cs =>
    match nextKey first cs with
    | .error failure => .error failure
    | .ok (none, rest) => .ok (found, rest)
    | .ok (some key, cs) =>
      match readColon cs with
      | .error failure => .error failure
      | .ok cs =>
        match Reader.at (.key key) value cs with
        | .error failure => .error failure
        | .ok (v, cs) => readMembers value fuel false (found.insert key v) cs

/-- Reads an object as a table. Of a key that stands twice the later value counts. -/
def Reader.table (value : Reader α) : Reader (Table α) := fun cs =>
  match skipBlank cs with
  | '{' :: rest => readMembers value (rest.length + 1) true .empty rest
  | cs => .error (refusal cs)

/-- A field of a record. What is read for it changes the record. -/
structure RecordField (σ : Type) where
  name : String
  required : Bool
  read : Reader (σ → σ)

/-- Reads what follows a key of a record. `seen` are the names of the fields that have been read,
none of which may come again. A key that is no field is skipped with its value. -/
def readMember (fields : List (RecordField σ)) (seen : List String) (record : σ) (key : String) :
    Reader (List String × σ) := fun cs =>
  match fields.find? (·.name == key) with
  | none =>
    match readColon cs with
    | .error failure => .error failure
    | .ok cs => (skipValue cs).map ((seen, record), ·)
  | some field =>
    if seen.contains key then .error (.unfit [])
    else
      match readColon cs with
      | .error failure => .error failure
      | .ok cs =>
        Reader.map (fun change => (key :: seen, change record)) (Reader.at (.key key) field.read) cs

/-- Reads the fields of a record from an object, and the closing brace. Fields that are required
have to be there. -/
def readFields (fields : List (RecordField σ)) :
    (fuel : Nat) → (first : Bool) → (seen : List String) → (record : σ) → Reader σ
  | 0, _, _, _, _ => .error .truncated
  | fuel + 1, first, seen, record, cs =>
    match nextKey first cs with
    | .error failure => .error failure
    | .ok (none, rest) =>
      if fields.all fun f => !f.required || seen.contains f.name then .ok (record, rest)
      else .error (.unfit [])
    | .ok (some key, cs) =>
      match readMember fields seen record key cs with
      | .error failure => .error failure
      | .ok ((seen, record), cs) => readFields fields fuel false seen record cs

/-- Reads the fields of a record from a list, from number `n` on, and the closing bracket. Fields at
the end may be left out if they are not required. -/
def readRow (n : Nat) (record : σ) : List (RecordField σ) → Reader σ
  | [], cs =>
    match skipBlank cs with
    | [] => .error .truncated
    | c :: rest => if c == ']' then .ok (record, rest) else .error .malformed
  | field :: fields, cs =>
    match nextItem (n == 0) cs with
    | .error failure => .error failure
    | .ok (false, rest) =>
      if field.required || fields.any (·.required) then .error (.unfit [])
      else .ok (record, rest.drop 1)
    | .ok (true, cs) =>
      match Reader.at (.index n) field.read cs with
      | .error failure => .error failure
      | .ok (change, cs) => readRow (n + 1) (change record) fields cs

/-- Reads a record from an object, or from the list of its fields. What is not there stays as it is
in the record `initial`. -/
def Reader.record (fields : List (RecordField σ)) (initial : σ) : Reader σ := fun cs =>
  match skipBlank cs with
  | '{' :: rest => readFields fields (rest.length + 1) true [] initial rest
  | '[' :: rest => readRow 0 initial fields rest
  | cs => .error (refusal cs)

/-- A field that is read by a reader and put into the record. -/
def field (name : String) (required : Bool) (read : Reader α) (put : α → σ → σ) : RecordField σ :=
  ⟨name, required, Reader.map put read⟩

/-- The value at the front of a text. -/
def parse (read : Reader α) (source : String) : Except Failure α := (read source.toList).map (·.1)

end SpanSearch.Json
