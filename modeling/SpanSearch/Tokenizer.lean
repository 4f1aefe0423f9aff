import SpanSearch.Token
import SpanSearch.Unicode.Letter
import SpanSearch.Unicode.Space

/-! # Tokenizers

A tokenizer cuts a text into tokens. The standard one yields numbers with inner decimal marks,
words with inner hyphens and apostrophes, and every other character that is not white space by
itself. White space at the start of the text is dropped, all other white space is kept on the token
before it.
-/

namespace SpanSearch

open Unicode

/-- A way of cutting text into tokens. Tokenizers that cut in the same way share their name. -/
structure Tokenizer where
  name : String
  tokens : String → List Token

/-- A rule that tells how far a token extends. Given its first character and what follows, it
splits off the rest of the token. -/
structure Cut where
  take : Char → List Char → List Char × List Char
  take_length : ∀ c cs, (take c cs).2.length ≤ cs.length

namespace Cut

/-- Splits off a run of characters that satisfy `part`, in which single characters that satisfy
`link` may stand, each followed by one that satisfies `part`. -/
def takeLinked (part link : Char → Bool) : List Char → List Char × List Char
  | [] => ([], [])
  | c :: rest =>
    if part c || (link c && rest.head?.any part) then
      let (run, rest) := takeLinked part link rest
      (c :: run, rest)
    else ([], c :: rest)

theorem takeLinked_length (part link : Char → Bool) (cs : List Char) :
    (takeLinked part link cs).2.length ≤ cs.length := by
  induction cs with
  | nil => simp [takeLinked]
  | cons c rest ih =>
    unfold takeLinked
    split
    · exact Nat.le_succ_of_le ih
    · exact Nat.le_refl _

/-- The characters of words. -/
def isWordPart (c : Char) : Bool := isLetter c || isNumber c

/-- The characters that join two parts of a word. -/
def isWordLink (c : Char) : Bool := c == '\'' || c == '-'

/-- The characters that join two parts of a number. -/
def isDecimalMark (c : Char) : Bool := c == '.' || c == ','

/-- Splits off the rest of the token that starts with `c`. A number with a decimal mark goes before
a word, and a word before a single character. -/
def takeStandard (c : Char) (cs : List Char) : List Char × List Char :=
  let number := takeLinked isNumber isDecimalMark cs
  if isNumber c && number.1.any isDecimalMark then number
  else if isWordPart c then takeLinked isWordPart isWordLink cs
  else ([], cs)

/-- The standard rule. -/
def standard : Cut where
  take := takeStandard
  take_length c cs := by
    unfold takeStandard
    dsimp only
    split
    · exact takeLinked_length ..
    · split
      · exact takeLinked_length ..
      · exact Nat.le_refl _

/-- The rule by which a token ends at white space alone. -/
def atSpace : Cut where
  take _ cs := (cs.takeWhile (!isSpace ·), cs.dropWhile (!isSpace ·))
  take_length _ _ := (List.dropWhile_suffix _).length_le

/-- The tokens of a text. -/
def tokens (cut : Cut) (cs : List Char) : List Token :=
  match _h : trimStart cs with
  | [] => []
  | c :: rest =>
    let token := cut.take c rest
    { text := String.ofList (c :: token.1)
      space := String.ofList (token.2.takeWhile isSpace)
      flags := .empty } :: cut.tokens token.2
termination_by cs.length
decreasing_by
  have shorter : (trimStart cs).length ≤ cs.length := (List.dropWhile_suffix _).length_le
  have := cut.take_length c rest
  simp only [_h, List.length_cons] at shorter
  omega

end Cut

namespace Tokenizer

/-- The tokenizer that cuts by a rule. -/
def ofCut (name : String) (cut : Cut) : Tokenizer := ⟨name, fun text => cut.tokens text.toList⟩

/-- The standard tokenizer. -/
def standard : Tokenizer := ofCut "simple" .standard

/-- The tokenizer that cuts at white space alone. -/
def atSpace : Tokenizer := ofCut "whitespace" .atSpace

end Tokenizer

end SpanSearch
