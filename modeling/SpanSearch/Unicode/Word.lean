import SpanSearch.Unicode.Category
import SpanSearch.Unicode.Letter

/-! # Words and digits

The classes of characters that have a short name in regular expressions. In its wide form a class
goes through all scripts, otherwise it stays within ASCII.
-/

namespace SpanSearch.Unicode

/-- The digits of ASCII. -/
def asciiDigits : CharSet := .range 0x30 0x39

/-- The decimal digits of all scripts. -/
def decimalDigits : CharSet := (category? "nd").getD .empty

/-- The characters of words in ASCII: letters, digits and the low line. -/
def asciiWordChars : CharSet :=
  (asciiDigits.union (.range 0x41 0x5A)).union ((CharSet.range 0x5F 0x5F).union (.range 0x61 0x7A))

/-- The characters of words in all scripts: alphabetic ones, marks, decimal digits, connectors and
the two joiners. -/
def wordChars : CharSet :=
  ["m", "nd", "pc"].foldl (fun set name => set.union ((categoryClass? name).getD .empty))
    (alphabetics.union (.range 0x200C 0x200D))

/-- The white space of ASCII. -/
def asciiSpaces : CharSet := (CharSet.range 0x09 0x0D).union (.range 0x20 0x20)

/-- The white space of all scripts. -/
def spaces : CharSet :=
  CharSet.ofHex "9-D 20 85 A0 1680 2000-200A 2028-2029 202F 205F 3000"

/-- Whether the character is one of words. -/
def isWordChar (wide : Bool) (c : Char) : Bool :=
  if wide && 0x80 ≤ c.toNat then wordChars.mem c else asciiWordChars.mem c

end SpanSearch.Unicode
