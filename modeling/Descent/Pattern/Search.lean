import Descent.Pattern.Engine
import Descent.Pattern.Program

/-!
# Searching

A program runs on a text with a list of threads, the preferred one first. Between two characters
every thread is followed through forks and conditions to the steps that read or accept; a step
that a preferred thread has reached at the same place is not entered again. When a thread
accepts, all threads after it are given up. The match is the one found by the most preferred
thread of the earliest place where any thread accepts.
-/
namespace Descent.Pattern

/-- Where step `k` leads without reading a character, between the characters `before` and
`after`. -/
def Step.onward (before after : Option Char) (k : Nat) : Step → List Nat
  | fork jumps => jumps.map (Jump.target k)
  | assert l => if l.holds before after then [k + 1] else []
  | consume _ => []
  | accept => []

/-- Whether a thread stays at the step until the next character. -/
def Step.rests : Step → Bool
  | consume _ => true
  | accept => true
  | fork _ => false
  | assert _ => false

/-- What is known of one place between two characters: which steps have been entered there, and
those among them that read or accept, the preferred ones last. -/
structure Frontier where
  entered : Array Bool
  resting : List Nat

/-- Enters step `k`. -/
def Frontier.enter (f : Frontier) (k : Nat) (s : Step) : Frontier :=
  ⟨f.entered.setIfInBounds k true, if s.rests then k :: f.resting else f.resting⟩

/-- Follows the pending steps through forks and conditions, each to its end before the next. A
round deals with one pending step. -/
def Frontier.follow (program : Array Step) (before after : Option Char) :
    Nat → List Nat → Frontier → Frontier
  | 0, _, f => f
  | _ + 1, [], f => f
  | rounds + 1, k :: pending, f =>
    match program[k]?, f.entered[k]? with
    | some s, some false =>
      follow program before after rounds (s.onward before after k ++ pending) (f.enter k s)
    | _, _ => follow program before after rounds pending f

/-- The reading and accepting steps that `threads` lead to between two characters, the preferred
ones first. A step is entered once and leads to two others at most, which bounds the rounds. -/
def reached (program : Array Step) (before after : Option Char) (threads : List Nat) :
    List Nat :=
  let start : Frontier := ⟨Array.replicate program.size false, []⟩
  (start.follow program before after (threads.length + 2 * program.size + 1) threads).resting
    |>.reverse

def accepts (program : Array Step) (k : Nat) : Bool :=
  match program[k]? with
  | some .accept => true
  | _ => false

/-- Where the reading threads go on after the character `c`. -/
def advance (program : Array Step) (c : Char) (threads : List Nat) : List Nat :=
  threads.filterMap fun (k : Nat) =>
    match program[k]? with
    | some (.consume s) => if s.contains c then some (k + 1) else none
    | _ => none

/-- How many characters of a text the preferred match takes, if `threads` lead to one. Of the
text, `count` characters have been read, and `best` are those of the match found so far; a match
found further on comes from a preferred thread, and so replaces it. -/
def run (program : Array Step) (before : Option Char) (threads : List Nat) (count : Nat)
    (best : Option Nat) (text : List Char) : Option Nat :=
  let resting := reached program before text.head? threads
  let best := if resting.any (accepts program) then some count else best
  match text with
  | [] => best
  | c :: rest =>
    match advance program c (resting.takeWhile (!accepts program ·)) with
    | [] => best
    | threads => run program (some c) threads (count + 1) best rest

/-- The first match in `text`, which follows the character `before` and starts at `start`. -/
def findFrom (program : Array Step) (before : Option Char) (start : Nat) (text : List Char) :
    Option Span :=
  match run program before [0] 0 none text with
  | some n => some ⟨start, n⟩
  | none =>
    match text with
    | [] => none
    | c :: rest => findFrom program (some c) (start + 1) rest

/-- The first match of a program in a text. -/
def find (program : Array Step) (text : List Char) : Option Span :=
  findFrom program none 0 text

end Descent.Pattern
