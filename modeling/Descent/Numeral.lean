/-!
# Numerals

Whole numbers written in decimal: an optional sign and ASCII digits, any number of which may be
leading zeros. A numeral is read only if its value is in range.
-/
namespace Descent.Numeral

/-- The value of a sequence of digits. -/
def value (digits : List Char) : Nat :=
  digits.foldl (fun n c => 10 * n + (c.toNat - 48)) 0

/-- The value of a text that consists of digits, of which there must be one at least. -/
def digits? (cs : List Char) : Option Nat :=
  if cs.isEmpty || !cs.all Char.isDigit then none else some (value cs)

theorem digits?_of_digits {cs : List Char} (hne : cs ≠ []) (h : ∀ c ∈ cs, c.isDigit = true) :
    digits? cs = some (value cs) := by
  rw [digits?, List.all_eq_true.mpr h]
  simp [hne]

/-- Whether a number fits 64 bits with a sign. -/
def fitsSigned (n : Int) : Bool :=
  -9223372036854775808 ≤ n && n ≤ 9223372036854775807

/-- A numeral without a sign or with a plus sign, below `2 ^ 64`. -/
def unsigned? (cs : List Char) : Option Nat :=
  let body :=
    match cs with
    | '+' :: rest => rest
    | _ => cs
  (digits? body).filter (· ≤ 18446744073709551615)

/-- A numeral with either sign or none, from `-2 ^ 63` to below `2 ^ 63`. -/
def signed? (cs : List Char) : Option Int :=
  let value : Option Int :=
    match cs with
    | '-' :: rest => (digits? rest).map fun n => -(n : Int)
    | '+' :: rest => (digits? rest).map Int.ofNat
    | _ => (digits? cs).map Int.ofNat
  value.filter fitsSigned

/-- Reads a numeral, or says why there is none. -/
def check {β : Type} (read? : List Char → Option β) (cs : List Char) : Except String β :=
  if cs.isEmpty then .error "expected a number"
  else
    match read? cs with
    | some n => .ok n
    | none => .error "number out of range"

end Descent.Numeral
