/-!
# Pattern engines

Regular expressions are read and searched for by an engine. All that the leaves know of it is
whether it accepts the text of a pattern, and which stretch of a text it finds then.

A pattern that is to match where a cursor stands is put into a group that follows the condition `^`
before the engine reads it. The group is a matter of text: a pattern whose parentheses do not
balance by themselves is judged together with it.
-/
namespace Descent

/-- A match in a text: where it starts, and how many characters it takes. -/
structure Pattern.Span where
  start : Nat
  length : Nat
  deriving DecidableEq

namespace Pattern.Span

/-- The part of a text that a match takes. -/
def of (s : Span) (text : List Char) : List Char :=
  (text.drop s.start).take s.length

/-- A text up to the end of a match. -/
def upTo (s : Span) (text : List Char) : List Char :=
  text.take (s.start + s.length)

end Pattern.Span

/-- Why a pattern is refused. -/
inductive PatternError where
  /-- Its text is not well formed, or nests too deeply. -/
  | malformed
  /-- Its program would take too much storage. -/
  | tooLarge
  deriving DecidableEq

/-- What reads patterns, and finds their first matches in texts. -/
structure PatternEngine where
  compile : List Char → Except PatternError (List Char → Option Pattern.Span)

/-- A compiled pattern: the text it was given as, and the search for the first match of its anchored
text. -/
structure AnchoredPattern where
  text : String
  find : List Char → Option Pattern.Span

namespace PatternEngine

/-- The engine accepts the text as a pattern. -/
def Valid (engine : PatternEngine) (text : List Char) : Prop :=
  ∃ find, engine.compile text = .ok find

/-- The text of a pattern, anchored. -/
def anchoredText (text : List Char) : List Char :=
  '^' :: '(' :: '?' :: ':' :: text ++ [')']

/-- Compiles a pattern that is to match at a cursor. -/
def anchored (engine : PatternEngine) (text : String) : Except PatternError AnchoredPattern :=
  (engine.compile (anchoredText text.toList)).map fun find => ⟨text, find⟩

/-- What is documented of an engine, where `Matches p text i j` says that the pattern `p` matches the
text from the place `i` to the place `j`. -/
structure Documented (engine : PatternEngine)
    (Matches : List Char → List Char → Nat → Nat → Prop) : Prop where
  /-- A match is a stretch of the text. -/
  inside : ∀ {p text : List Char} {i j : Nat}, Matches p text i j → i ≤ j ∧ j ≤ text.length
  /-- What a search finds is a match of its pattern. -/
  found : ∀ {p text : List Char} {find : List Char → Option Pattern.Span} {m : Pattern.Span},
    engine.compile p = .ok find → find text = some m → Matches p text m.start (m.start + m.length)
  /-- Parts side by side match one after the other, and a group matches what the pattern in it
  does. -/
  sideBySide : ∀ {p text : List Char} {i j : Nat}, engine.Valid p →
    Matches (anchoredText p) text i j → ∃ k, Matches ['^'] text i k ∧ Matches p text k j
  /-- The condition `^` takes no characters, and holds only where the text starts. -/
  textStart : ∀ {text : List Char} {i j : Nat}, Matches ['^'] text i j → i = 0 ∧ j = 0

end PatternEngine
end Descent
