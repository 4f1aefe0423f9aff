import SpanSearch.Table

/-! # Tokens

A text is a sequence of tokens, each with the white space that follows it. The text of a range of
tokens keeps the white space between them and leaves out what follows the last.
-/

namespace SpanSearch

/-- A token: its text, the white space after it, and the flags that were set on it. -/
structure Token where
  text : String
  space : String
  flags : TextSet
  deriving DecidableEq

namespace Token

/-- A token with nothing after it and no flags. -/
def ofText (text : String) : Token := ⟨text, "", .empty⟩

/-- The token, with a blank after it if nothing is. -/
def spaced (token : Token) : Token :=
  if token.space.isEmpty then { token with space := " " } else token

/-- The text of a run of tokens, without the white space after the last. -/
def join : List Token → String
  | [] => ""
  | [token] => token.text
  | token :: rest => token.text ++ token.space ++ join rest

/-- The text of the tokens from `start` up to `stop`, as far as they exist. -/
def textOf (tokens : List Token) (start stop : Nat) : String :=
  join ((tokens.take stop).drop start)

/-- The text of the token at an offset, which is empty where there is none. -/
def valueAt (tokens : List Token) (place : Nat) : String := (tokens[place]?.map (·.text)).getD ""

end Token

end SpanSearch
