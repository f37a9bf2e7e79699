import Descent.Run

/-!
# Parsers

A parser takes a cursor to a run. This module has the ways to put parsers together: choice,
sequence, and two repetitions. A repetition stops where its element fails, and also where a
round leaves the cursor equal to the one it began with, since it would go on for ever.
-/
namespace Descent

/-- What runs on a cursor. -/
abbrev Parser (κ β : Type) := κ → Run κ β

namespace Parser
variable {κ α β γ : Type} [Cursor κ α]

/-- Yields `v` and consumes nothing. -/
def succeed (v : β) : Parser κ β := Run.success v

/-- Refuses with a message, at the cursor it is given. -/
def reject (message : String) : Parser κ β := fun c =>
  Run.raise (.rejected message (Cursor.location c))

/-- Reports a misuse of the grammar. -/
def misused (m : Misuse) : Parser κ β := fun _ => Run.raise (.misuse m)

/-- Spends the budget, whatever it is. -/
def diverge : Parser κ β := fun _ => Run.exhausted

/-- Tries `p`, and `q` from the same cursor if `p` fails. -/
def orElse (p q : Parser κ β) : Parser κ β := fun c =>
  (p c).orElse fun _ => q c

/-- Runs `p` and then the parser that its value selects. -/
def bind (p : Parser κ β) (k : β → Parser κ γ) : Parser κ γ := fun c =>
  (p c).andThen k

/-- Runs `p` as often as it succeeds, `budget` rounds at most. -/
def many (p : Parser κ β) : Nat → Parser κ (List β)
  | 0 => diverge
  | budget + 1 => fun c =>
    (p c).continueWith
      (fun v rest =>
        if rest == c then Run.success [v] c
        else (many p budget rest).map (v :: ·))
      (fun _ => Run.success [] c)

/-- Runs `p` at `next` and goes on with a separator and more of `p` as long as both succeed. The
remainder is `confirmed` if there is no item at `next`, and else the end of the last item: a
separator counts as consumed only if an item follows it. -/
def separated (p : Parser κ β) (separator : Parser κ γ) : Nat → κ → Parser κ (List β)
  | 0, _ => diverge
  | budget + 1, confirmed => fun next =>
    (p next).continueWith
      (fun v item =>
        (separator item).continueWith
          (fun _ following =>
            if following == next then Run.success [v] item
            else (separated p separator budget item following).map (v :: ·))
          (fun _ => Run.success [v] item))
      (fun _ => Run.success [] confirmed)

/-- Items of `p` with separators between them. -/
def sepBy (p : Parser κ β) (separator : Parser κ γ) (budget : Nat) : Parser κ (List β) := fun c =>
  separated p separator budget c c

/-- Notes that a postponed parser is called for. -/
def defer (label : Option String) (p : Parser κ β) : Parser κ β := fun c =>
  (p c).after (label.toList.map Event.thunk)

/-- Notes where a named parser starts and how it ends. -/
def traced (name : String) (p : Parser κ β) : Parser κ β := fun c =>
  ((p c).continueWith
    (fun v rest => (Run.success v rest).after [.left name (Cursor.position rest)])
    (fun e => (Run.failure e).after [.gaveUp name])).after [.entered name (Cursor.position c)]

end Parser
end Descent
