import Descent.Pattern.Flags
import Descent.Unicode.Query

/-!
# Properties

How a pattern asks for the characters with a property: by a single letter, or in braces by a name
or by a property with one of its values. Between a property and its value stands a sign that they
are equal or differ; of several signs, the one that says they differ counts first.
-/
namespace Descent.Pattern

/-- The characters up to a closing brace. -/
def bracedName (fl : Flags) : Nat → List Char → Option (List Char × List Char)
  | 0, _ => none
  | n + 1, cs =>
    match fl.skip cs with
    | [] => none
    | '\x7d' :: rest => some ([], rest)
    | c :: rest => do
      let (name, rest) ← bracedName fl n rest
      return (c :: name, rest)

/-- What stands before and after the first occurrence of a sign. -/
def partedAt (sign : List Char) : List Char → Option (List Char × List Char)
  | [] => none
  | c :: cs =>
    if sign.isPrefixOf (c :: cs) then some ([], (c :: cs).drop sign.length)
    else (partedAt sign cs).map fun (before, after) => (c :: before, after)

/-- A question for the characters with a property, or for those without it. -/
structure PropertyQuery where
  negated : Bool
  query : Unicode.Query

/-- The question that is asked in braces. -/
def PropertyQuery.ofName (name : List Char) : PropertyQuery :=
  let value (negated : Bool) (parts : List Char × List Char) : PropertyQuery :=
    ⟨negated, .value (.ofList parts.1) (.ofList parts.2)⟩
  match partedAt ['!', '='] name, partedAt [':'] name, partedAt ['='] name with
  | some parts, _, _ => value true parts
  | none, some parts, _ => value false parts
  | none, none, some parts => value false parts
  | none, none, none => ⟨false, .set (.ofList name)⟩

/-- The question that is asked from after its letter on. -/
def propertyQuery (fl : Flags) (cs : List Char) : Option (PropertyQuery × List Char) :=
  match fl.skip cs with
  | [] => none
  | '\\' :: _ => none
  | '\x7b' :: rest =>
    (bracedName fl (rest.length + 1) rest).map fun (name, rest) => (.ofName name, rest)
  | c :: rest => some (⟨false, .set c.toString⟩, fl.skip rest)

/-- The characters with a property, or those without it if `negated`. Only patterns that know all
characters may ask for properties. -/
def property (fl : Flags) (negated : Bool) (cs : List Char) : Option (CodePoints × List Char) := do
  if fl.alphabet = .ascii then none
  let (q, rest) ← propertyQuery fl cs
  let s ← q.query.members?
  return (← fl.negateFolded (negated != q.negated) s, rest)

end Descent.Pattern
