/-!
# Locations

A location tells a reader where a position falls: the line, counted from one, and the offset
from the start of that line, in the units the source counts positions in.
-/
namespace Descent

/-- A position with the line it falls on and its offset within that line. -/
structure Location where
  position : Nat
  line : Nat
  offset : Nat
  deriving DecidableEq

namespace Location

/-- The location of nothing in particular. -/
def unset : Location := ⟨0, 0, 0⟩

/-- Follows `elements`, each given with the position it starts at, from line `line` whose first
position is `lineStart`, and locates `position`. Elements from `position` on do not count. -/
def scanFrom {α : Type} (isNewline : α → Bool) (position : Nat) (line lineStart : Nat) :
    List (Nat × α) → Location
  | [] => ⟨position, line, position - lineStart⟩
  | (i, a) :: rest =>
    if position ≤ i then ⟨position, line, position - lineStart⟩
    else if isNewline a then scanFrom isNewline position (line + 1) (i + 1) rest
    else scanFrom isNewline position line lineStart rest

/-- The location of `position` among `elements`. -/
def scan {α : Type} (isNewline : α → Bool) (elements : List (Nat × α)) (position : Nat) :
    Location :=
  scanFrom isNewline position 1 0 elements

/-- The form in which messages give a location. -/
def display (l : Location) : String :=
  s!"line {l.line}, offset {l.offset} (absolute position: {l.position})"

/-- The fields by name. -/
def debug (l : Location) : String :=
  "Location \x7b " ++ s!"position: {l.position}, line: {l.line}, offset: {l.offset}" ++ " \x7d"

end Location
end Descent
