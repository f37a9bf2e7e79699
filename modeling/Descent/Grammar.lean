import Descent.Parser

/-!
# Grammars

A grammar describes a parser without running it: leaves, ways to put grammars together, and
calls of named grammars of the same system, through which grammars become recursive. The leaves
are left open, so one grammar can be run on cursors of different kinds. Building a grammar has no
effect; all that a grammar does, it does when it is run on a cursor.
-/
namespace Descent

/-- Grammars over the leaves `L` that yield values of the last type. The names `ρ` stand for
grammars that yield `V`. -/
inductive Grammar (L : Type → Type) (ρ V : Type) : Type → Type 1 where
  | leaf {β : Type} (l : L β) : Grammar L ρ V β
  /-- Yields `v` and consumes nothing. -/
  | succeed {β : Type} (v : β) : Grammar L ρ V β
  /-- Refuses with a message. -/
  | reject {β : Type} (message : String) : Grammar L ρ V β
  /-- The second grammar where the first one fails, from the same cursor. -/
  | orElse {β : Type} (p q : Grammar L ρ V β) : Grammar L ρ V β
  /-- The first grammar, and then the one that its value selects. -/
  | bind {β γ : Type} (p : Grammar L ρ V β) (k : β → Grammar L ρ V γ) : Grammar L ρ V γ
  /-- As many repetitions as succeed. -/
  | many {β : Type} (p : Grammar L ρ V β) : Grammar L ρ V (List β)
  /-- Repetitions with a separator between them. -/
  | sepBy {β γ : Type} (p : Grammar L ρ V β) (separator : Grammar L ρ V γ) :
    Grammar L ρ V (List β)
  /-- A grammar that is postponed until it is called for, which can be noted. -/
  | defer {β : Type} (label : Option String) (p : Grammar L ρ V β) : Grammar L ρ V β
  /-- A grammar whose start and end are noted. -/
  | traced {β : Type} (name : String) (p : Grammar L ρ V β) : Grammar L ρ V β
  /-- The grammar with a name. -/
  | call (r : ρ) : Grammar L ρ V V

namespace Grammar
variable {L : Type → Type} {ρ σ V κ α : Type}

section
variable {β γ : Type}

/-- Replaces the value. -/
def map (f : β → γ) (p : Grammar L ρ V β) : Grammar L ρ V γ :=
  p.bind fun v => succeed (f v)

/-- First `p` and then `q`, with the value of `q`. -/
def andThen (p : Grammar L ρ V β) (q : Grammar L ρ V γ) : Grammar L ρ V γ :=
  p.bind fun _ => q

/-- First `p` and then `q`, with the value of `p`. -/
def before (p : Grammar L ρ V β) (q : Grammar L ρ V γ) : Grammar L ρ V β :=
  p.bind fun v => q.bind fun _ => succeed v

/-- Forgets the value. -/
def erase (p : Grammar L ρ V β) : Grammar L ρ V Unit :=
  p.map fun _ => ()

/-- The value `v` where `p` fails, with nothing consumed. -/
def withDefault (p : Grammar L ρ V β) (v : β) : Grammar L ρ V β :=
  p.orElse (succeed v)

/-- Checks the value, and refuses it with the message of the check. -/
def refine (p : Grammar L ρ V β) (check : β → Except String γ) : Grammar L ρ V γ :=
  p.bind fun v =>
    match check v with
    | .ok w => succeed w
    | .error message => reject message

/-- Exactly `n` repetitions. -/
def replicate (p : Grammar L ρ V β) : Nat → Grammar L ρ V (List β)
  | 0 => succeed []
  | n + 1 => p.bind fun v => (replicate p n).map (v :: ·)

end

/-- The same grammar with other names for the grammars it calls. -/
def rename (f : ρ → σ) : {β : Type} → Grammar L ρ V β → Grammar L σ V β
  | _, leaf l => leaf l
  | _, succeed v => succeed v
  | _, reject message => reject message
  | _, orElse p q => orElse (p.rename f) (q.rename f)
  | _, bind p k => bind (p.rename f) fun v => (k v).rename f
  | _, many p => many (p.rename f)
  | _, sepBy p s => sepBy (p.rename f) (s.rename f)
  | _, defer label p => defer label (p.rename f)
  | _, traced name p => traced name (p.rename f)
  | _, call r => call (f r)

/-- The parser that a grammar describes, given what its leaves do and what the names it calls
stand for. Its repetitions go on for `budget` rounds at most. -/
def parser [Cursor κ α] (read : {β : Type} → L β → κ → Outcome κ ParseError β)
    (callee : ρ → Parser κ V) (budget : Nat) : {β : Type} → Grammar L ρ V β → Parser κ β
  | _, leaf l => fun c => Run.ofOutcome (read l c)
  | _, succeed v => Parser.succeed v
  | _, reject message => Parser.reject message
  | _, orElse p q => (p.parser read callee budget).orElse (q.parser read callee budget)
  | _, bind p k => (p.parser read callee budget).bind fun v => (k v).parser read callee budget
  | _, many p => (p.parser read callee budget).many budget
  | _, sepBy p s => (p.parser read callee budget).sepBy (s.parser read callee budget) budget
  | _, defer label p => (p.parser read callee budget).defer label
  | _, traced name p => (p.parser read callee budget).traced name
  | _, call r => callee r

end Grammar

/-- What a system of named grammars says for each name: a grammar, or why there is none. -/
abbrev Rules (L : Type → Type) (ρ V : Type) := ρ → Except Misuse (Grammar L ρ V V)

namespace Rules
variable {L : Type → Type} {ρ V κ α : Type} [Cursor κ α]

/-- The parser that a name stands for. Each call lowers the budget of what it calls. -/
def parser (rules : Rules L ρ V) (read : {β : Type} → L β → κ → Outcome κ ParseError β) :
    Nat → ρ → Parser κ V
  | 0, _ => Parser.diverge
  | budget + 1, r =>
    match rules r with
    | .ok g => g.parser read (rules.parser read budget) budget
    | .error m => Parser.misused m

/-- Runs a grammar of the system. -/
def run (rules : Rules L ρ V) (read : {β : Type} → L β → κ → Outcome κ ParseError β)
    (budget : Nat) {β : Type} (g : Grammar L ρ V β) : Parser κ β :=
  g.parser read (rules.parser read budget) budget

end Rules
end Descent
