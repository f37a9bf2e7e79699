import Descent.Pattern.Reader
import Descent.Pattern.Search
import Descent.Pattern.Storage

/-!
# The standard engine

Patterns are read from their text, judged by the storage that their programs would take, compiled,
and searched for with threads.
-/
namespace Descent

/-- The most bytes that the programs of a pattern may take: ten mebibytes each. -/
def Pattern.maxSize : Nat := 10485760

/-- The engine that patterns are compiled with. The storage is computed from the pattern alone, so
that a program that is too large is never built. -/
def PatternEngine.standard : PatternEngine where
  compile text :=
    match Pattern.read? text with
    | none => .error .malformed
    | some p =>
      if p.largestProgram ≤ Pattern.maxSize then .ok (Pattern.find p.program.toArray)
      else .error .tooLarge

/-- Compiles a pattern with the standard engine. -/
def AnchoredPattern.compile (text : String) : Except PatternError AnchoredPattern :=
  PatternEngine.standard.anchored text

end Descent
