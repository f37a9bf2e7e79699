import Descent.Atom.Token

/-!
# Values

One type for whatever a grammar may yield, for grammars that are not known before the program
runs: scalars, the atoms of every kind of source, lists, and values under a tag.
-/
namespace Descent

inductive Value where
  | unit
  | bool (b : Bool)
  | int (n : Int)
  | text (s : String)
  | char (c : Char)
  | byte (b : UInt8)
  | token (t : Token)
  | plain (p : Plain)
  | list (vs : List Value)
  | tagged (name : String) (v : Value)

namespace Value

mutual

/-- Equality of values. Tokens are compared as tokens, so a value that contains one which equals
nothing differs from itself. -/
def same : Value → Value → Bool
  | unit, unit => true
  | bool a, bool b => a == b
  | int m, int n => m == n
  | text s, text t => s == t
  | char c, char d => c == d
  | byte a, byte b => a == b
  | token s, token t => s == t
  | plain p, plain q => p == q
  | list vs, list ws => sameList vs ws
  | tagged a v, tagged b w => a == b && same v w
  | _, _ => false

def sameList : List Value → List Value → Bool
  | [], [] => true
  | v :: vs, w :: ws => same v w && sameList vs ws
  | _, _ => false

end

instance : BEq Value := ⟨same⟩

mutual

/-- The characters of texts, characters and bytes, those in lists one after the other. Other
values have none. -/
def chars : Value → List Char
  | text s => s.toList
  | char c => [c]
  | byte b => [Char.ofNat b.toNat]
  | list vs => charsList vs
  | _ => []

def charsList : List Value → List Char
  | [] => []
  | v :: vs => chars v ++ charsList vs

end

/-- The number that a value is, zero if it is none. -/
def toInt : Value → Int
  | int n => n
  | byte b => b.toNat
  | _ => 0

end Value

/-- Atoms as values. -/
class ToValue (α : Type) where
  toValue : α → Value

instance : ToValue Char := ⟨.char⟩
instance : ToValue UInt8 := ⟨.byte⟩
instance : ToValue Token := ⟨.token⟩
instance : ToValue Plain := ⟨.plain⟩

end Descent
