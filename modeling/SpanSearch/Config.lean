/-! # Configuration

The limits and defaults that a search works with.
-/

namespace SpanSearch

/-- What a search is configured with. -/
structure Config where
  /-- Asks for a report on the way. No answer depends on it. -/
  debug : Bool := false
  /-- How many compiled patterns are kept. -/
  cacheCapacity : Nat := 100
  /-- How many tokens a regular expression may extend over. -/
  regexTokens : Nat := 10
  /-- What stands between joined values where a setter does not say so. -/
  separator : String := " "
  /-- How many rounds the assembly of enumerations takes at most. -/
  enumerationRounds : Nat := 1000
  deriving DecidableEq

/-- How many tokens a regular expression may extend over, which is one at least. -/
def Config.regexReach (config : Config) : Nat := max config.regexTokens 1

end SpanSearch
