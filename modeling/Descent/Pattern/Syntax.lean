import Descent.Pattern.Alphabet

/-!
# Patterns

The syntax trees of regular expressions. The flags that were in force where a part was written
are already worked into the tree, and of the groups only those that capture leave a trace.
-/
namespace Descent

/-- What ends a line. -/
inductive LineBreak where
  /-- A line feed. -/
  | feed
  /-- A carriage return, a line feed, or the two in this order as one. -/
  | returnOrFeed
  deriving DecidableEq

/-- Everything but the characters that end a line. -/
def LineBreak.withinLine : LineBreak → CodePoints
  | feed => CodePoints.complement [(0x0A, 0x0A)]
  | returnOrFeed => CodePoints.complement [(0x0A, 0x0A), (0x0D, 0x0D)]

/-- Conditions on the word characters around a place. -/
inductive WordEdge where
  | boundary
  | noBoundary
  | start
  | stop
  /-- No word character before the place. -/
  | noneBefore
  /-- No word character after the place. -/
  | noneAfter
  deriving DecidableEq

/-- Conditions on the place between two characters. -/
inductive Look where
  | textStart
  | textEnd
  | lineStart (b : LineBreak)
  | lineEnd (b : LineBreak)
  | word (e : WordEdge) (a : Alphabet)
  deriving DecidableEq

/-- Whether the condition holds where there is a word character before the place or not, and
after it or not. -/
def WordEdge.holds : WordEdge → Bool → Bool → Bool
  | boundary, before, after => before != after
  | noBoundary, before, after => before == after
  | start, before, after => !before && after
  | stop, before, after => before && !after
  | noneBefore, before, _ => !before
  | noneAfter, _, after => !after

/-- Whether the condition holds between the characters `before` and `after`, where there is
none at either end of the text. A carriage return and the line feed after it are not parted. -/
def Look.holds (l : Look) (before after : Option Char) : Bool :=
  match l with
  | textStart => before.isNone
  | textEnd => after.isNone
  | lineStart .feed => before.isNone || before == some '\n'
  | lineEnd .feed => after.isNone || after == some '\n'
  | lineStart .returnOrFeed =>
    before.isNone || before == some '\n' || (before == some '\r' && after != some '\n')
  | lineEnd .returnOrFeed =>
    after.isNone || after == some '\r' || (after == some '\n' && before != some '\r')
  | word e a => e.holds (before.any a.word.contains) (after.any a.word.contains)

/-- A regular expression. -/
inductive Pattern where
  | empty
  /-- The characters of a text, which is not empty. -/
  | literal (text : List Char)
  /-- A character of a set. Sets that are written in different alphabets are different parts, even
  where they have the same characters. -/
  | set (a : Alphabet) (s : CodePoints)
  | look (l : Look)
  | seq (p q : Pattern)
  /-- `p`, or else `q`. -/
  | alt (p q : Pattern)
  /-- At least `least` and at most `most` times `p`, preferring more repetitions if `greedy`. -/
  | repeated (p : Pattern) (least : Nat) (most : Option Nat) (greedy : Bool)
  /-- A group that captures what `p` matches. -/
  | group (number : Nat) (p : Pattern)
  deriving DecidableEq

namespace Pattern

/-- Whether every match of the pattern consumes a character. -/
def consumes : Pattern → Bool
  | empty => false
  | literal _ => true
  | set _ _ => true
  | look _ => false
  | seq p q => p.consumes || q.consumes
  | alt p q => p.consumes && q.consumes
  | repeated p least _ _ => least != 0 && p.consumes
  | group _ p => p.consumes

/-- Whether no match of the pattern could consume a character, since there is none in it to
consume one. -/
def neverConsumes : Pattern → Bool
  | empty => true
  | literal _ => false
  | set _ _ => false
  | look _ => true
  | seq p q => p.neverConsumes && q.neverConsumes
  | alt p q => p.neverConsumes && q.neverConsumes
  | repeated p _ _ _ => p.neverConsumes
  | group _ p => p.neverConsumes

end Pattern
end Descent
