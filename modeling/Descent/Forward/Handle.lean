import Descent.Grammar

/-!
# Handles

A forward declaration stands for a grammar that is given later. It has a slot, filled at most
once, and one handle that owns the slot; copies of the handle refer to the slot without keeping
it. A grammar can also be boxed: then it lives as long as any handle to the box does. A grammar
that refers to handles takes hold of them when it is built.
-/
namespace Descent.Forward

/-- A reference to a slot or a box. -/
inductive Handle where
  /-- The one handle that keeps a slot. -/
  | owner (slot : Nat)
  /-- A reference that does not keep its slot. -/
  | borrowed (slot : Nat)
  /-- One of the handles that keep a box. -/
  | boxed (box : Nat)
  deriving DecidableEq

/-- What a grammar in the store may call: a rule that is given from outside, a slot or a box. -/
inductive Target (ρ : Type) where
  | rule (r : ρ)
  | slot (s : Nat)
  | box (b : Nat)
  /-- A name that no handle had when the grammar was built. -/
  | unbound

namespace Handle

/-- What a copy of a handle is. A copy of a forward declaration never owns its slot. -/
def copy : Handle → Handle
  | owner s => borrowed s
  | borrowed s => borrowed s
  | boxed b => boxed b

def target {ρ : Type} : Handle → Target ρ
  | owner s => .slot s
  | borrowed s => .slot s
  | boxed b => .box b

end Handle

/-- How a grammar takes hold of a handle by name. -/
inductive Capture where
  /-- Takes a copy. -/
  | copied (name : String)
  /-- Takes the handle itself out of the table. -/
  | moved (name : String)

/-- A grammar before it is built. It calls rules, and handles by name, all of which are among
its captures. -/
structure Draft (L : Type → Type) (ρ V : Type) where
  captures : List Capture
  body : Grammar L (ρ ⊕ String) V V

/-- A grammar with the handles it holds. -/
structure Definition (L : Type → Type) (ρ V : Type) where
  grammar : Grammar L (Target ρ) V V
  held : List Handle

/-- The state of a slot. -/
inductive Slot (L : Type → Type) (ρ V : Type) where
  | undefined
  | defined (d : Definition L ρ V)
  /-- The owner is gone. -/
  | dropped

variable {L : Type → Type} {ρ V : Type}

/-- The handles that the definition in a slot holds. -/
def Slot.held : Slot L ρ V → List Handle
  | .defined d => d.held
  | _ => []

/-- Whether the slot still has its owner. -/
def Slot.isAlive : Slot L ρ V → Bool
  | .dropped => false
  | _ => true

def Slot.isDefined : Slot L ρ V → Bool
  | .defined _ => true
  | _ => false

/-- The handles that a box holds. -/
def boxHeld : Option (Definition L ρ V) → List Handle
  | some d => d.held
  | none => []

end Descent.Forward
