import Descent.Atom

/-!
# Tokens

Two atom types for sources that are not text: the tokens of a small bracketed language, one of
which equals nothing, and plain numbers.
-/
namespace Descent

/-- The tokens of a small bracketed language. -/
inductive Token where
  | number (value : Int)
  | identifier (name : Char)
  | comma
  | opening
  | closing
  | newline
  /-- A token that is not equal to any token, itself included. -/
  | never

namespace Token

/-- Equality of tokens. Only `never` differs from itself. -/
def same : Token → Token → Bool
  | number m, number n => m == n
  | identifier c, identifier d => c == d
  | comma, comma | opening, opening | closing, closing | newline, newline => true
  | _, _ => false

/-- The name of a token and what it carries. -/
def debug : Token → String
  | number n => s!"Num({n})"
  | identifier c => "Id(" ++ Quoted.char c ++ ")"
  | comma => "Comma"
  | opening => "Open"
  | closing => "Close"
  | newline => "Newline"
  | never => "Never"

instance : BEq Token := ⟨same⟩

instance : Atom Token where
  isNewline
    | newline => true
    | _ => false
  debug := debug

theorem beq_eq_same (s t : Token) : (s == t) = same s t := rfl

end Token

/-- A number standing for itself. No number ends a line. -/
structure Plain where
  value : Int
  deriving DecidableEq

namespace Plain

instance : Atom Plain where
  debug x := s!"Plain({x.value})"

end Plain
end Descent
