import Descent.Cursor

/-!
# Cursors over sequences

A cursor over a sequence of atoms counts positions in atoms. The end of the sequence has a form
of its own, which stepping off the last atom reaches; a cursor made by hand may stand at or past
the end without having that form, and reads nothing there either.
-/
namespace Descent

/-- A place in a sequence. -/
inductive ElementCursor (α : Type) where
  | within (source : Source α) (index : Nat)
  | finished (source : Source α)

namespace ElementCursor
variable {α : Type}

/-- The start of a sequence: its end, if it is empty. -/
def start (s : Source α) : ElementCursor α :=
  if s.elements.isEmpty then finished s else within s 0

def source : ElementCursor α → Source α
  | within s _ => s
  | finished s => s

/-- The index that the cursor stands at; the length of the sequence at its end. -/
def position : ElementCursor α → Nat
  | within _ i => i
  | finished s => s.elements.length

/-- The atoms after the cursor. -/
def remaining (c : ElementCursor α) : List α :=
  c.source.elements.drop c.position

def value? : ElementCursor α → Option α
  | within s i => s.elements[i]?
  | finished _ => none

def next : ElementCursor α → ElementCursor α
  | within s i => if s.elements.length ≤ i + 1 then finished s else within s (i + 1)
  | finished s => finished s

/-- Equality: the same form, equal contents, and the same index. -/
def same [BEq α] : ElementCursor α → ElementCursor α → Bool
  | within s i, within t j => s.elements == t.elements && i == j
  | finished s, finished t => s.elements == t.elements
  | _, _ => false

instance [BEq α] [Atom α] : Cursor (ElementCursor α) α where
  beq := same
  value? := value?
  next := next
  position := position
  location c := Location.scan Atom.isNewline
    (c.source.elements.zipIdx.map fun (a, i) => (i, a)) c.position
  remaining := remaining
  source := source
  restart c := start c.source

/-- The fields by name. -/
def debug [BEq α] [Atom α] : ElementCursor α → String
  | within s i => "Valid \x7b data: " ++ Atom.debugList s.elements ++ ", position: " ++ toString i
      ++ " \x7d"
  | finished s => "EndOfFile \x7b data: " ++ Atom.debugList s.elements ++ " \x7d"

end ElementCursor
end Descent
