import Descent.Value.Transform
import Descent.Pattern.Standard
import Descent.Leaf
import Descent.Grammar

/-!
# Grammars of values

Grammars all of whose parts yield values, as they are put together when the grammar itself is
data. The leaves of any kind of source can be used, as long as they include the common ones.
-/
namespace Descent

/-- Grammars that yield values. -/
abbrev ValueGrammar (L : Type → Type) (ρ : Type) := Grammar L ρ Value Value

namespace ValueGrammar
variable {L : Type → Type} {ρ α : Type}

/-- A leaf, with what it yields as a value. -/
def leaf {β : Type} (toValue : β → Value) (l : L β) : ValueGrammar L ρ :=
  (Grammar.leaf l).map toValue

/-- Replaces the value by what the function gives. -/
def transform (f : Transform) (p : ValueGrammar L ρ) : ValueGrammar L ρ :=
  p.map f.apply

/-- Repetitions, as a list. -/
def many (p : ValueGrammar L ρ) : ValueGrammar L ρ :=
  (Grammar.many p).map .list

/-- Separated repetitions, as a list. -/
def sepBy (p separator : ValueGrammar L ρ) : ValueGrammar L ρ :=
  (Grammar.sepBy p separator).map .list

def erase (p : ValueGrammar L ρ) : ValueGrammar L ρ :=
  (Grammar.erase p).map fun _ => .unit

/-- Refuses every value. -/
def refuse (p : ValueGrammar L ρ) (message : String) : ValueGrammar L ρ :=
  p.bind fun _ => .reject message

/-- Refuses what is followed by more input. -/
def toEnd (lift : {β : Type} → Leaf α β → L β) (p : ValueGrammar L ρ) : ValueGrammar L ρ :=
  p.bind fun v =>
    (Grammar.leaf (lift .ended)).bind fun ended =>
      if ended then .succeed v else .reject "trailing input"

/-- As many atoms as the value says. -/
def counted [ToValue α] (lift : {β : Type} → Leaf α β → L β) (p : ValueGrammar L ρ) :
    ValueGrammar L ρ :=
  p.bind fun v =>
    ((Grammar.leaf (lift .any)).replicate v.toInt.toNat).map fun xs =>
      .list (xs.map ToValue.toValue)

/-- Two values as a list of two. -/
def pair (p q : ValueGrammar L ρ) : ValueGrammar L ρ :=
  p.bind fun v => q.map fun w => .list [v, w]

/-- A value put in front of a list. -/
def cons (p q : ValueGrammar L ρ) : ValueGrammar L ρ :=
  p.bind fun v => q.map fun
    | .list ws => .list (v :: ws)
    | w => .list [v, w]

/-- Two equal values. -/
def twice (p q : ValueGrammar L ρ) : ValueGrammar L ρ :=
  p.bind fun v => q.bind fun w => if v == w then .succeed v else .reject "mismatch"

end ValueGrammar
end Descent
