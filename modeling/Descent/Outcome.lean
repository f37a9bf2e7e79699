import Descent.Error

/-!
# Outcomes

A parse ends in one of two ways: with a value and the cursor after what it consumed, or with an
error. Everything else in the library works with outcomes through the functions of this module.
-/
namespace Descent

/-- How a parse ended. -/
inductive Outcome (κ ε β : Type) where
  | success (value : β) (rest : κ)
  | failure (error : ε)

namespace Outcome
variable {κ ε β γ : Type}

/-- Replaces the value of a success. -/
def map (f : β → κ → γ) : Outcome κ ε β → Outcome κ ε γ
  | success v rest => success (f v rest) rest
  | failure e => failure e

/-- Goes on after a success; a failure stays as it is. -/
def flatMap (f : β → κ → Outcome κ ε γ) : Outcome κ ε β → Outcome κ ε γ
  | success v rest => f v rest
  | failure e => failure e

/-- Goes on after a failure; a success stays as it is. -/
def orElse (f : ε → Outcome κ ε β) : Outcome κ ε β → Outcome κ ε β
  | success v rest => success v rest
  | failure e => f e

def isSuccess : Outcome κ ε β → Bool
  | success .. => true
  | failure _ => false

def isFailure (o : Outcome κ ε β) : Bool :=
  !o.isSuccess

/-- The value of a success. -/
def unwrap : Outcome κ ε β → Except Misuse β
  | success v _ => .ok v
  | failure _ => .error .unwrappedFailure

/-- The cursor after a success. -/
def rest : Outcome κ ε β → Except Misuse κ
  | success _ rest => .ok rest
  | failure _ => .error .unwrappedFailure

/-- The error of a failure. -/
def error : Outcome κ ε β → Except Misuse ε
  | success .. => .error .errorOfSuccess
  | failure e => .ok e

/-- Value and cursor of a success, forgetting what a failure was. -/
def ok? : Outcome κ ε β → Option (β × κ)
  | success v rest => some (v, rest)
  | failure _ => none

def toExcept : Outcome κ ε β → Except ε (β × κ)
  | success v rest => .ok (v, rest)
  | failure e => .error e

def ofExcept : Except ε (β × κ) → Outcome κ ε β
  | .ok (v, rest) => success v rest
  | .error e => failure e

/-- Equality of outcomes: successes by value and cursor, failures by the kind of error. -/
def same [BEq κ] [BEq β] [Coded ε] : Outcome κ ε β → Outcome κ ε β → Bool
  | success v c, success w d => v == w && c == d
  | failure e, failure d => sameCode e d
  | _, _ => false

/-- The parts of an outcome by name, each shown by the function given for it. -/
def debug (showCursor : κ → String) (showError : ε → String) (showValue : β → String) :
    Outcome κ ε β → String
  | success v rest =>
    "Success \x7b value: " ++ showValue v ++ ", rest: " ++ showCursor rest ++ " \x7d"
  | failure e => "Fail(" ++ showError e ++ ")"

@[simp] theorem ofExcept_toExcept (o : Outcome κ ε β) : ofExcept o.toExcept = o := by
  cases o <;> rfl

@[simp] theorem toExcept_ofExcept (x : Except ε (β × κ)) : (ofExcept x).toExcept = x := by
  rcases x with e | ⟨v, c⟩ <;> rfl

end Outcome
end Descent
