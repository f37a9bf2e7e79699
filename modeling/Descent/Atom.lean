import Descent.Text.Quoted

/-!
# Atoms

What a source is made of: characters, bytes, or the tokens of some language. An atom type says
which of its atoms end a line and how messages name one. Atoms come with an equality that is only
a test: nothing forces an atom to equal itself.
-/
namespace Descent

/-- The elements that a cursor walks over. -/
class Atom (α : Type) [BEq α] where
  /-- Whether this atom ends a line. -/
  isNewline : α → Bool := fun _ => false
  /-- The atom as values are shown. -/
  debug : α → String
  /-- The atom as messages name it. -/
  describe : α → String := debug

namespace Atom

/-- A byte as two hexadecimal digits. -/
def byteDigits (b : UInt8) : String :=
  let digits := (Nat.toDigits 16 b.toNat).map Char.toUpper
  "0x" ++ String.ofList (List.replicate (2 - digits.length) '0' ++ digits)

/-- A byte by number, with the character beside it if that is visible. -/
def describeByte (b : UInt8) : String :=
  if 0x21 ≤ b.toNat && b.toNat ≤ 0x7E then
    byteDigits b ++ " ('" ++ (Char.ofNat b.toNat).toString ++ "')"
  else byteDigits b

/-- Every line feed ends a line, and nothing else does. -/
instance : Atom Char where
  isNewline c := c == '\n'
  debug := Quoted.char

instance : Atom UInt8 where
  isNewline b := b == 10
  debug b := toString b.toNat
  describe := describeByte

/-- Atoms in brackets, separated by commas. -/
def debugList {α : Type} [BEq α] [Atom α] (xs : List α) : String :=
  "[" ++ String.intercalate ", " (xs.map debug) ++ "]"

end Atom
end Descent
