import Descent.Atom
import Descent.Location

/-!
# Cursors

A source is a sequence of atoms that was opened once; a cursor is a place in a source. Moving a
cursor gives another cursor and leaves the first one valid, so going back to an earlier place is
just using the earlier cursor again. Two openings of equal contents are different sources.
-/
namespace Descent

/-- A sequence of atoms, with the number of its opening. -/
structure Source (α : Type) where
  opening : Nat
  elements : List α

/-- Places in a source of `α`. Equality of cursors compares their sources by content, and so
inherits what the equality of atoms leaves undecided; `isSuffixOf` compares them by opening. -/
class Cursor (κ : Type) (α : outParam Type) extends BEq κ where
  /-- The atom at the cursor, none at the end. -/
  value? : κ → Option α
  /-- The place after one more atom; the end stays where it is. -/
  next : κ → κ
  position : κ → Nat
  location : κ → Location
  /-- The atoms not yet consumed. -/
  remaining : κ → List α
  source : κ → Source α
  /-- The start of the source. -/
  restart : κ → κ

namespace Cursor
variable {κ α : Type} [Cursor κ α]

/-- Whether there is nothing left to read. -/
def atEnd (c : κ) : Bool :=
  (value? c).isNone

/-- Whether `c` walks the same opened source as `d` and stands at or after it. -/
def isSuffixOf (c d : κ) : Bool :=
  (source c).opening == (source d).opening && position d ≤ position c

/-- The cursor after `n` steps. A step that stays at its position has come to the end, which no
further step leaves. -/
def advance : Nat → κ → κ
  | 0, c => c
  | n + 1, c =>
    let d := next c
    if position d = position c then d else advance n d

end Cursor
end Descent
