import Descent.Pattern.Syntax

/-!
# Pattern programs

A pattern is compiled to a list of steps, each of which reads a character, tests a condition, or
forks into several continuations, the preferred one first. A step without a target of its own
goes on to the step after it, and the targets of a fork are given by their distance, so that the
code of a pattern does not depend on where it is placed.
-/
namespace Descent.Pattern

/-- The distance to another step. -/
inductive Jump where
  | ahead (n : Nat)
  | back (n : Nat)
  deriving DecidableEq

/-- Where a jump from step `k` leads. -/
def Jump.target (k : Nat) : Jump → Nat
  | ahead n => k + n
  | back n => k - n

/-- A step of a program. -/
inductive Step where
  | consume (s : CodePoints)
  | assert (l : Look)
  | fork (jumps : List Jump)
  | accept

/-- Two continuations, the one that repeats first if repeating is preferred. -/
def choice (greedy : Bool) (repeating leaving : Jump) : Step :=
  .fork (if greedy then [repeating, leaving] else [leaving, repeating])

/-- `n` copies of some code one after the other. -/
def copies (n : Nat) (body : List Step) : List Step :=
  (List.replicate n body).flatten

/-- Up to `n` copies of some code, each of which may be left out with all that follow it. -/
def optionalCopies (greedy : Bool) (n : Nat) (body : List Step) : List Step :=
  let size := body.length + 1
  (List.range n).flatMap fun i => choice greedy (.ahead 1) (.ahead ((n - i) * size)) :: body

/-- One or more repetitions: the code, then a choice between it and what follows. -/
def onceOrMore (greedy : Bool) (body : List Step) : List Step :=
  body ++ [choice greedy (.back body.length) (.ahead 1)]

/-- Any number of repetitions. Where every repetition consumes a character, one fork decides
both whether to start and whether to go on. Otherwise the two are separate, so that a repetition
which consumes nothing ends the loop. -/
def anyNumber (greedy consumes : Bool) (body : List Step) : List Step :=
  if consumes then
    choice greedy (.ahead 1) (.ahead (body.length + 2)) :: body
      ++ [.fork [.back (body.length + 1)]]
  else
    let loop := onceOrMore greedy body
    choice greedy (.ahead 1) (.ahead (loop.length + 1)) :: loop

/-- The steps for a pattern. -/
def code : Pattern → List Step
  | empty => []
  | literal text => text.map fun c => .consume (.singleton c)
  | set _ s => [.consume s]
  | look l => [.assert l]
  | seq p q => p.code ++ q.code
  | alt p q =>
    let left := p.code
    let right := q.code
    .fork [.ahead 1, .ahead (left.length + 2)] :: left ++ .fork [.ahead (right.length + 1)] :: right
  | repeated p least most greedy =>
    let body := p.code
    match least, most with
    | 0, none => anyNumber greedy p.consumes body
    | n + 1, none => copies n body ++ onceOrMore greedy body
    | n, some m => copies n body ++ optionalCopies greedy (m - n) body
  | group _ p => p.code

/-- The program that accepts after a match of the pattern. -/
def program (p : Pattern) : List Step :=
  p.code ++ [.accept]

end Descent.Pattern
