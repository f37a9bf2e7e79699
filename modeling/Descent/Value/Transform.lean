import Descent.Value
import Descent.Numeral

/-!
# Working with values

The functions that a grammar may apply to what it yields: those that always give a value, and
those that may refuse with a message.
-/
namespace Descent

/-- Functions on values that never refuse. -/
inductive Transform where
  /-- How many characters or items. -/
  | length
  /-- All characters, as one text. -/
  | concat
  /-- The number that a digit stands for. -/
  | digit
  /-- The sum of a list. -/
  | sum
  /-- One more. -/
  | increment
  /-- The first item. -/
  | first
  | constant (v : Value)
  | tag (name : String)

namespace Transform

def digitOf (n : Nat) : Value :=
  if 48 ≤ n ∧ n ≤ 57 then .int (n - 48 : Nat) else .unit

/-- What an item of a list adds to its sum. -/
def summand : Value → Int
  | .int n => n
  | _ => 0

def apply : Transform → Value → Value
  | length, .text s => .int s.length
  | length, .list vs => .int vs.length
  | length, _ => .unit
  | concat, v => .text (String.ofList v.chars)
  | digit, .char c => digitOf c.toNat
  | digit, .byte b => digitOf b.toNat
  | digit, _ => .unit
  | sum, .list vs => .int (vs.foldl (fun n v => n + summand v) 0)
  | sum, _ => .unit
  | increment, v => .int (v.toInt + 1)
  | first, .list (v :: _) => v
  | first, _ => .unit
  | constant v, _ => v
  | tag name, v => .tagged name v

end Transform

/-- Functions on values that may refuse. -/
inductive Check where
  /-- The number that the characters denote, without a sign. -/
  | unsigned
  /-- The number that the characters denote, with or without a sign. -/
  | signed
  | even
  | nonempty
  /-- The result of a calculation written as a first number and a list of pairs of an operator
  and a further number. -/
  | arithmetic

namespace Check

/-- One operation on a running total. Division goes toward zero. -/
def operate (op : List Char) (total n : Int) : Except String Int :=
  let result : Except String Int :=
    match op with
    | ['+'] => .ok (total + n)
    | ['-'] => .ok (total - n)
    | ['*'] => .ok (total * n)
    | ['/'] => if n = 0 then .error "division by zero" else .ok (Int.tdiv total n)
    | _ => .ok total
  result.bind fun r => if Numeral.fitsSigned r then .ok r else .error "arithmetic overflow"

/-- The operations one after the other. -/
def calculate : Int → List Value → Except String Int
  | total, [] => .ok total
  | total, .list [op, n] :: rest => (operate op.chars total n.toInt).bind (calculate · rest)
  | total, _ :: rest => calculate total rest

def apply : Check → Value → Except String Value
  | unsigned, v => (Numeral.check Numeral.unsigned? v.chars).map fun n => .int (n : Nat)
  | signed, v => (Numeral.check Numeral.signed? v.chars).map .int
  | even, .int n => if n % 2 = 0 then .ok (.int n) else .error "expected an even digit"
  | even, _ => .error "expected an even digit"
  | nonempty, .list [] => .error "expected at least one"
  | nonempty, .text s => if s.isEmpty then .error "expected at least one" else .ok (.text s)
  | nonempty, v => .ok v
  | arithmetic, .list [first, .list rest] => (calculate first.toInt rest).map .int
  | arithmetic, v => .ok v

end Check
end Descent
