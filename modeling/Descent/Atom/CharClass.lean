import Descent.Atom.Token

/-!
# Classes of atoms

The predicates that grammars choose single atoms by. The classes of characters are those of
ASCII; an atom of another type belongs to the class of the character that it stands for, if it
stands for one.
-/
namespace Descent

/-- Atoms that may stand for a character. -/
class Lettered (α : Type) where
  character? : α → Option Char

instance : Lettered Char := ⟨some⟩

/-- A byte stands for an ASCII character. -/
instance : Lettered UInt8 :=
  ⟨fun b => if b.toNat < 128 then some (Char.ofNat b.toNat) else none⟩

/-- An identifier stands for its letter and a one-digit number for its digit. -/
instance : Lettered Token :=
  ⟨fun
    | .identifier c => some c
    | .number n => if 0 ≤ n ∧ n ≤ 9 then some (Char.ofNat (48 + n.toNat)) else none
    | _ => none⟩

instance : Lettered Plain := ⟨fun _ => none⟩

/-- The named classes of ASCII characters. -/
inductive CharClass where
  | digit
  | alpha
  | alnum
  | upper
  | lower
  | space
  deriving DecidableEq

namespace CharClass

/-- The characters of a class. White space here is blank, tab, line feed, form feed and carriage
return, without the vertical tab. -/
def contains : CharClass → Char → Bool
  | digit, c => c.isDigit
  | alpha, c => c.isAlpha
  | alnum, c => c.isAlphanum
  | upper, c => c.isUpper
  | lower, c => c.isLower
  | space, c => c == ' ' || c == '\t' || c == '\n' || c == '\x0c' || c == '\r'

/-- Whether an atom stands for a character of the class. -/
def accepts {α : Type} [Lettered α] (k : CharClass) (a : α) : Bool :=
  (Lettered.character? a).any k.contains

end CharClass

/-- The predicates a grammar may choose an atom by. -/
inductive Choice (α : Type) where
  | anything
  | nothing
  | among (xs : List α)
  | outside (xs : List α)
  | inClass (k : CharClass)

/-- Whether a predicate accepts an atom. Membership is by the equality of atoms, so an atom that
differs from itself is never found in a list. -/
def Choice.accepts {α : Type} [BEq α] [Lettered α] : Choice α → α → Bool
  | anything, _ => true
  | nothing, _ => false
  | among xs, a => xs.any (· == a)
  | outside xs, a => !xs.any (· == a)
  | inClass k, a => k.accepts a

end Descent
