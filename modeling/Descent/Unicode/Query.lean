import Descent.Unicode.Age
import Descent.Unicode.Boundary

/-!
# Queries

How patterns ask for sets of characters: by the name of a set, or by a property and one of its
values. Names are compared without regard to case, blanks, underscores and hyphens, and a leading
"is" is left out.
-/
namespace Descent.Unicode

/-- What a pattern asks for. -/
inductive Query where
  | set (name : String)
  | value (property value : String)

/-- The text without a leading "is" in any case. -/
def withoutIs : List Char → Option (List Char)
  | c :: d :: rest => if c.toLower = 'i' ∧ d.toLower = 's' then some rest else none
  | _ => none

/-- Small letters for capitals; blanks, underscores and hyphens, and what is not of ASCII, are left
out. -/
def plainName (cs : List Char) : List Char :=
  (cs.filter fun c => c.toNat < 128 && c != ' ' && c != '_' && c != '-').map Char.toLower

/-- The form in which names are compared. One name would be taken for another without its leading
"is", and keeps it. -/
def canonicalName (name : String) : String :=
  match withoutIs name.toList with
  | none => .ofList (plainName name.toList)
  | some rest =>
    match plainName rest with
    | ['c'] => "isc"
    | cs => .ofList cs

/-- The sets that may be asked for by name alone. No two of them share a name. -/
def namedSets : List NamedSet :=
  caseProperties ++ wordProperties ++ displayProperties ++ usageProperties ++ categories
    ++ scriptSets

/-- The sets that make up the values of a property. -/
def valuesOf? (property : String) : Option (List NamedSet) :=
  match property with
  | "generalcategory" | "gc" => some categories
  | "script" | "sc" => some scriptSets
  | "scriptextensions" | "scx" => some extendedScriptSets
  | "age" => some ages
  | "graphemeclusterbreak" | "gcb" => some GraphemeBreak.sets
  | "wordbreak" | "wb" => some WordBreak.sets
  | "sentencebreak" | "sb" => some SentenceBreak.sets
  | _ => none

/-- The characters that a query asks for, if it names a set that there is. -/
def Query.members? : Query → Option CodePoints
  | set name => NamedSet.find? namedSets (canonicalName name)
  | value property name => do
    NamedSet.find? (← valuesOf? (canonicalName property)) (canonicalName name)

end Descent.Unicode
