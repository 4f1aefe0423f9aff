import SpanSearch.Json.Failure
import SpanSearch.Number.Digit

/-! # Texts in JSON

How text stands between quotes in JSON: quotes, backslashes and control characters are escaped.
Characters may also be given by their number in hexadecimal, those beyond the first 65536 as two
halves.
-/

namespace SpanSearch.Json

open Number

/-- The digit of a number below 16. -/
def hexDigit (n : Nat) : Char := if n < 10 then Char.ofNat (48 + n) else Char.ofNat (87 + n)

/-- A character as it is written between quotes. -/
def escapeChar (c : Char) : List Char :=
  if c == '"' then ['\\', '"']
  else if c == '\\' then ['\\', '\\']
  else if c == '\n' then ['\\', 'n']
  else if c == '\r' then ['\\', 'r']
  else if c == '\t' then ['\\', 't']
  else if c == '\x08' then ['\\', 'b']
  else if c == '\x0c' then ['\\', 'f']
  else if c.toNat < 32 then ['\\', 'u', '0', '0', hexDigit (c.toNat / 16), hexDigit (c.toNat % 16)]
  else [c]

/-- A text between quotes. -/
def quote (text : String) : List Char := '"' :: text.toList.flatMap escapeChar ++ ['"']

/-- Reads four hexadecimal digits. Where less than four bytes remain, the text ends too early. -/
def readHex : List Char → Except Failure (Nat × List Char)
  | a :: b :: c :: d :: rest =>
    match hexValue? a, hexValue? b, hexValue? c, hexValue? d with
    | some a, some b, some c, some d => .ok (((a * 16 + b) * 16 + c) * 16 + d, rest)
    | _, _, _, _ => .error .malformed
  | cs =>
    if cs.foldl (fun size c => size + c.utf8Size) 0 < 4 then .error .truncated
    else .error .malformed

/-- Whether the number is that of the first half of a character. -/
def isHighHalf (n : Nat) : Bool := 0xD800 ≤ n && n ≤ 0xDBFF

/-- Whether the number is that of the second half of a character. -/
def isLowHalf (n : Nat) : Bool := 0xDC00 ≤ n && n ≤ 0xDFFF

/-- The character of two halves. -/
def joinHalves (high low : Nat) : Char :=
  Char.ofNat (0x10000 + (high - 0xD800) * 0x400 + (low - 0xDC00))

/-- Reads the second half of a character after its first half `high`. -/
def readLowHalf (high : Nat) : List Char → Except Failure (Char × List Char)
  | [] => .error .truncated
  | '\\' :: [] => .error .truncated
  | '\\' :: 'u' :: rest =>
    match readHex rest with
    | .error failure => .error failure
    | .ok (low, rest) =>
      if isLowHalf low then .ok (joinHalves high low, rest) else .error .malformed
  | _ => .error .malformed

/-- Reads the number of a character. In text that is `skipped`, a half of a character may stand
alone. -/
def readUnit (skipped : Bool) (cs : List Char) : Except Failure (Char × List Char) :=
  match readHex cs with
  | .error failure => .error failure
  | .ok (n, rest) =>
    if skipped then .ok (Char.ofNat n, rest)
    else if isLowHalf n then .error .malformed
    else if isHighHalf n then readLowHalf n rest
    else .ok (Char.ofNat n, rest)

/-- Reads what follows the backslash of an escape. -/
def readEscape (skipped : Bool) : List Char → Except Failure (Char × List Char)
  | [] => .error .truncated
  | c :: rest =>
    if c == '"' || c == '\\' || c == '/' then .ok (c, rest)
    else if c == 'b' then .ok ('\x08', rest)
    else if c == 'f' then .ok ('\x0c', rest)
    else if c == 'n' then .ok ('\n', rest)
    else if c == 'r' then .ok ('\r', rest)
    else if c == 't' then .ok ('\t', rest)
    else if c == 'u' then readUnit skipped rest
    else .error .malformed

theorem readHex_length {cs rest : List Char} {n : Nat} (h : readHex cs = .ok (n, rest)) :
    rest.length ≤ cs.length := by
  unfold readHex at h
  split at h
  · split at h
    · cases h; simp only [List.length_cons]; omega
    · cases h
  · split at h <;> cases h

theorem readLowHalf_length {high : Nat} {cs rest : List Char} {c : Char}
    (h : readLowHalf high cs = .ok (c, rest)) : rest.length ≤ cs.length := by
  unfold readLowHalf at h
  grind [→ readHex_length]

theorem readUnit_length {skipped : Bool} {cs rest : List Char} {c : Char}
    (h : readUnit skipped cs = .ok (c, rest)) : rest.length ≤ cs.length := by
  unfold readUnit at h
  split at h
  · cases h
  · next read =>
    have := readHex_length read
    split at h
    · cases h; assumption
    · split at h
      · cases h
      · split at h
        · exact Nat.le_trans (readLowHalf_length h) this
        · cases h; assumption

theorem readEscape_length {skipped : Bool} {cs rest : List Char} {c : Char}
    (h : readEscape skipped cs = .ok (c, rest)) : rest.length ≤ cs.length := by
  unfold readEscape at h
  grind [→ readUnit_length]

/-- Reads text up to the closing quote. -/
def readText (skipped : Bool) (cs : List Char) : Except Failure (List Char × List Char) :=
  match cs with
  | [] => .error .truncated
  | c :: rest =>
    if c == '"' then .ok ([], rest)
    else if c == '\\' then
      match _read : readEscape skipped rest with
      | .error failure => .error failure
      | .ok (c, rest) =>
        match readText skipped rest with
        | .ok (text, rest) => .ok (c :: text, rest)
        | .error failure => .error failure
    else if c.toNat < 32 then .error .malformed
    else
      match readText skipped rest with
      | .ok (text, rest) => .ok (c :: text, rest)
      | .error failure => .error failure
termination_by cs.length
decreasing_by
  · have := readEscape_length _read
    simp only [List.length_cons]
    omega
  · simp

end SpanSearch.Json
