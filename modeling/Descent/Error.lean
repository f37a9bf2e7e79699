import Descent.Cursor

/-!
# Errors

A parse fails for a cause: the input ended, something else was found than expected, a pattern
did not match, or a value was rejected, each with the location it happened at; or the grammar
was misused, which has no location. Every error carries a number for its kind, and two errors
count as the same when their numbers agree.
-/
namespace Descent

/-- Errors with a number for their kind. -/
class Coded (ε : Type) where
  code : ε → Nat

/-- Whether two errors are of one kind, whatever else they say. -/
def sameCode {ε δ : Type} [Coded ε] [Coded δ] (e : ε) (d : δ) : Bool :=
  Coded.code e == Coded.code d

/-- Mistakes of the calling program rather than of the input. -/
inductive Misuse where
  | unwrappedFailure
  | errorOfSuccess
  | undefinedForward
  | forwardRedefined
  | droppedForward
  deriving DecidableEq

namespace Misuse

def code : Misuse → Nat
  | unwrappedFailure => 1
  | errorOfSuccess => 2
  | undefinedForward => 3
  | forwardRedefined => 4
  | droppedForward => 5

instance : Coded Misuse := ⟨code⟩

def message : Misuse → String
  | unwrappedFailure => "tried to unwrap a failed parse result"
  | errorOfSuccess => "tried to take the error of a successful parse result"
  | undefinedForward => "forward-declared parser was used before it was defined"
  | forwardRedefined => "forward-declared parser was defined twice"
  | droppedForward => "forward-declared parser was used after its grammar was dropped"

/-- The name of the mistake. -/
def debug : Misuse → String
  | unwrappedFailure => "UnwrappedFailedResult"
  | errorOfSuccess => "ErrorFromSuccessfulResult"
  | undefinedForward => "UndefinedForward"
  | forwardRedefined => "ForwardAlreadyDefined"
  | droppedForward => "DroppedForward"

end Misuse

/-- Why a parse failed. -/
inductive ParseError where
  | endOfInput (place : Location)
  | unexpected (expected found : String) (place : Location)
  | noMatch (pattern : String) (place : Location)
  | rejected (message : String) (place : Location)
  | misuse (m : Misuse)
  deriving DecidableEq

namespace ParseError

/-- Misuse is numbered from a hundred on. -/
def code : ParseError → Nat
  | endOfInput _ => 1
  | unexpected .. => 2
  | noMatch .. => 3
  | rejected .. => 4
  | misuse m => 100 + m.code

instance : Coded ParseError := ⟨code⟩

/-- Where the error happened, if it came from the input. -/
def location? : ParseError → Option Location
  | endOfInput l => some l
  | unexpected _ _ l => some l
  | noMatch _ l => some l
  | rejected _ l => some l
  | misuse _ => none

def message : ParseError → String
  | endOfInput l => "unexpected end of input at " ++ l.display
  | unexpected e f l => "expected " ++ e ++ ", found " ++ f ++ " at " ++ l.display
  | noMatch p l => "no match for pattern \x60" ++ p ++ "\x60 at " ++ l.display
  | rejected m l => m ++ " at " ++ l.display
  | misuse m => m.message

/-- The fields by name. -/
def debug : ParseError → String
  | endOfInput l => "EndOfInput \x7b loc: " ++ l.debug ++ " \x7d"
  | unexpected e f l =>
    "Unexpected \x7b expected: " ++ Quoted.text e.toList ++ ", found: " ++ Quoted.text f.toList
      ++ ", loc: " ++ l.debug ++ " \x7d"
  | noMatch p l =>
    "NoMatch \x7b pattern: " ++ Quoted.text p.toList ++ ", loc: " ++ l.debug ++ " \x7d"
  | rejected m l =>
    "Rejected \x7b message: " ++ Quoted.text m.toList ++ ", loc: " ++ l.debug ++ " \x7d"
  | misuse m => "Engine(" ++ m.debug ++ ")"

end ParseError
end Descent
