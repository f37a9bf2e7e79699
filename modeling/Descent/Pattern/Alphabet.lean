import Descent.Text.CaseFolding
import Descent.Unicode.Word

/-!
# Alphabets

The characters among which a pattern knows letters, digits and white space: those of ASCII, or
all there are. The sets that a pattern may ask for by name depend on the alphabet, and so do the
letters that differ by case alone.
-/
namespace Descent

/-- The characters among which a pattern knows letters, digits and white space. -/
inductive Alphabet where
  | ascii
  | unicode
  deriving DecidableEq

namespace Alphabet

/-- The decimal digits: those of every script, or the ten of ASCII. -/
def digit : Alphabet → CodePoints
  | ascii => [(0x30, 0x39)]
  | unicode => Unicode.decimalNumber

def space : Alphabet → CodePoints
  | ascii => [(0x09, 0x0D), (0x20, 0x20)]
  | unicode => Unicode.whiteSpace

def word : Alphabet → CodePoints
  | ascii => [(0x30, 0x39), (0x41, 0x5A), (0x5F, 0x5F), (0x61, 0x7A)]
  | unicode => Unicode.wordCharacters

/-- The set with all characters that differ by case alone from one in it. -/
def caseless : Alphabet → CodePoints → CodePoints
  | ascii => CaseFolding.close CaseFolding.asciiFoldings
  | unicode => CaseFolding.close CaseFolding.foldings

/-- The classes of ASCII characters that a bracketed class may name. -/
def named? (name : String) : Option CodePoints :=
  match name with
  | "alnum" => some [(0x30, 0x39), (0x41, 0x5A), (0x61, 0x7A)]
  | "alpha" => some [(0x41, 0x5A), (0x61, 0x7A)]
  | "ascii" => some [(0x00, 0x7F)]
  | "blank" => some [(0x09, 0x09), (0x20, 0x20)]
  | "cntrl" => some [(0x00, 0x1F), (0x7F, 0x7F)]
  | "digit" => some (digit ascii)
  | "graph" => some [(0x21, 0x7E)]
  | "lower" => some [(0x61, 0x7A)]
  | "print" => some [(0x20, 0x7E)]
  | "punct" => some [(0x21, 0x2F), (0x3A, 0x40), (0x5B, 0x60), (0x7B, 0x7E)]
  | "space" => some (space ascii)
  | "upper" => some [(0x41, 0x5A)]
  | "word" => some (word ascii)
  | "xdigit" => some [(0x30, 0x39), (0x41, 0x46), (0x61, 0x66)]
  | _ => none

end Alphabet
end Descent
