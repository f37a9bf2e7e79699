import Descent.Text.CodePoints

/-!
# Tables of characters

The notation in which properties of characters are tabulated. A table gives each range by two
numbers: how many code points lie between it and the range before, and how many follow its first
one within it. A number is written with the letters of the alphabet for digits, the last digit as
a small letter and those before it as capitals, so that numbers need no signs between them.
-/
namespace Descent.Unicode

/-- The numbers that letters denote, if the capitals read before them make up `high`. -/
def numbers (high : Nat) : List Char → List Nat
  | [] => []
  | c :: cs =>
    if c.isUpper then numbers (26 * high + (c.toNat - 65)) cs
    else (26 * high + (c.toNat - 97)) :: numbers 0 cs

/-- The ranges given by pairs of numbers, of which the first one counts from `next`. -/
def rangesFrom (next : Nat) : List Nat → CodePoints
  | gap :: length :: more =>
    (next + gap, next + gap + length) :: rangesFrom (next + gap + length + 1) more
  | _ => []

/-- The set that a table denotes. -/
def table (rows : List String) : CodePoints :=
  rangesFrom 0 (numbers 0 (rows.flatMap String.toList))

/-- A set of characters under the names that it may be called by. -/
structure NamedSet where
  names : List String
  members : CodePoints

/-- The set with the given name. -/
def NamedSet.find? (sets : List NamedSet) (name : String) : Option CodePoints :=
  (sets.find? fun s => s.names.contains name).map NamedSet.members

end Descent.Unicode
