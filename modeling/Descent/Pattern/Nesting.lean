/-!
# Nesting

How deeply the written form of a pattern nests. Every class, repetition and group is one level
deeper than what it holds, and so are parts written side by side; characters, conditions and
flags are at the bottom.
-/
namespace Descent.Pattern

/-- A part of a pattern with the depth of its written form. -/
structure Nested (α : Type) where
  value : α
  depth : Nat

/-- Something at the bottom. -/
def Nested.leaf {α : Type} (a : α) : Nested α := ⟨a, 0⟩

/-- The depth of parts written side by side. A part that stands alone adds no level. -/
def depthAbreast : List Nat → Nat
  | [] => 0
  | [d] => d
  | ds => ds.foldl max 0 + 1

/-- The depth that no pattern may exceed. -/
def maxDepth : Nat := 250

end Descent.Pattern
