import Descent.Pattern.Escape
import Descent.Pattern.Nesting

/-!
# Bracketed classes

Sets of characters written in brackets: single characters and ranges, escapes, named classes,
nested classes, and the operations between them, which are carried out from left to right. Case
is folded in each operand and in the whole, and negation comes last. A hyphen that cannot join
two characters stands for itself, and so does a closing bracket that comes first.
-/
namespace Descent.Pattern

/-- The operations between the parts of a class. -/
inductive SetOperation where
  | intersection
  | difference
  | symmetricDifference

def SetOperation.apply : SetOperation → CodePoints → CodePoints → CodePoints
  | intersection => .intersection
  | difference => .difference
  | symmetricDifference => .symmetricDifference

/-- The members of one part of a class as one set. -/
def joinMembers (members : List (Nested CodePoints)) : Nested CodePoints :=
  ⟨.unions (members.map Nested.value), depthAbreast (members.map Nested.depth)⟩

/-- An operation that waits for its right side. -/
structure Pending where
  operation : SetOperation
  left : Nested CodePoints

/-- Completes an operation with its right side. -/
def Pending.complete (fl : Flags) (p : Pending) (right : Nested CodePoints) : Nested CodePoints :=
  ⟨p.operation.apply (fl.fold p.left.value) (fl.fold right.value),
    max p.left.depth right.depth + 1⟩

/-- What a class denotes so far: its members, taken with the operation that waits for them. -/
def completeClass (fl : Flags) (pending : Option Pending) (members : List (Nested CodePoints)) :
    Nested CodePoints :=
  match pending with
  | none => joinMembers members
  | some p => p.complete fl (joinMembers members)

/-- Hyphens that start a class stand for themselves. -/
def leadingHyphens (fl : Flags) :
    Nat → List (Nested CodePoints) × List Char → List (Nested CodePoints) × List Char
  | n + 1, (members, '-' :: cs) =>
    leadingHyphens fl n (.leaf (.singleton '-') :: members, fl.skip cs)
  | _, r => r

/-- The start of a class after its opening bracket: whether it is negated, and the characters
that stand for themselves only because they come first. -/
def openClass (fl : Flags) (cs : List Char) : Bool × List (Nested CodePoints) × List Char :=
  let cs := fl.skip cs
  let (negated, cs) :=
    match cs with
    | '^' :: rest => (true, fl.skip rest)
    | _ => (false, cs)
  match cs with
  | '-' :: _ => (negated, leadingHyphens fl cs.length ([], cs))
  | ']' :: rest => (negated, [.leaf (.singleton ']')], fl.skip rest)
  | _ => (negated, [], cs)

/-- A named class within a class, from after its opening bracket on, and whether it is
negated. -/
def namedClass? (cs : List Char) : Option (Bool × CodePoints × List Char) :=
  match cs with
  | ':' :: rest =>
    let (negated, rest) :=
      match rest with
      | '^' :: rest => (true, rest)
      | _ => (false, rest)
    match rest.dropWhile (· != ':') with
    | ':' :: ']' :: after =>
      (Alphabet.named? (String.ofList (rest.takeWhile (· != ':')))).map (negated, ·, after)
    | _ => none
  | _ => none

/-- One side of a range. -/
def classAtom (fl : Flags) : List Char → Option (Escape × List Char)
  | [] => none
  | '\\' :: cs => escape fl cs
  | c :: cs => some (.literal c, cs)

/-- The character that decides whether the hyphen before `cs` ends a range. A verbose pattern
may have white space before it and one number sign, but the comment that this starts is looked
into; where nothing else is left, it is the very next character. -/
def afterHyphen (fl : Flags) (cs : List Char) : Option Char :=
  if fl.verbose then
    match cs.dropWhile isBlank with
    | '#' :: rest => ((rest.dropWhile isBlank).head?).or cs.head?
    | rest => rest.head?.or cs.head?
  else cs.head?

/-- Whether a hyphen before `cs` ends a range rather than standing for itself or starting an
operation. -/
def continuesRange (fl : Flags) (cs : List Char) : Bool :=
  match afterHyphen fl cs with
  | some ']' => false
  | some '-' => false
  | _ => true

/-- The characters from `first` to `last`, if they may be in a class. -/
def admittedRange (fl : Flags) (first last : Char) : Option CodePoints :=
  if first ≤ last ∧ fl.admits first ∧ fl.admits last then some (.range first last) else none

/-- A single member of a class or a range of them. -/
def classRange (fl : Flags) (cs : List Char) : Option (CodePoints × List Char) := do
  let (first, rest) ← classAtom fl cs
  let single : Option (CodePoints × List Char) :=
    match first with
    | .literal c => (admittedRange fl c c).map (·, rest)
    | .set s => some (s, rest)
    | .look _ => none
  match fl.skip rest with
  | '-' :: after =>
    if continuesRange fl after then
      let (last, rest) ← classAtom fl (fl.skip after)
      match first, last with
      | .literal a, .literal b => (admittedRange fl a b).map (·, rest)
      | _, _ => none
    else single
  | _ => single

/-- The rest of a class up to its closing bracket. -/
def classItems (fl : Flags) :
    Nat → Option Pending → List (Nested CodePoints) → List Char →
      Option (Nested CodePoints × List Char)
  | 0, _, _, _ => none
  | n + 1, pending, members, cs =>
    match fl.skip cs with
    | [] => none
    | '[' :: rest =>
      match namedClass? rest with
      | some (negated, t, rest) => do
        let t ← fl.negateFolded negated t
        classItems fl n pending (.leaf t :: members) rest
      | none => do
        let (negated, first, rest) := openClass fl rest
        let (t, rest) ← classItems fl n none first rest
        let s ← fl.negateFolded negated t.value
        classItems fl n pending (⟨s, t.depth + 1⟩ :: members) rest
    | ']' :: rest => some (completeClass fl pending members, rest)
    | '&' :: '&' :: rest =>
      classItems fl n (some ⟨.intersection, completeClass fl pending members⟩) [] rest
    | '-' :: '-' :: rest =>
      classItems fl n (some ⟨.difference, completeClass fl pending members⟩) [] rest
    | '~' :: '~' :: rest =>
      classItems fl n (some ⟨.symmetricDifference, completeClass fl pending members⟩) [] rest
    | cs => do
      let (t, rest) ← classRange fl cs
      classItems fl n pending (.leaf t :: members) rest

/-- A class, from after its opening bracket on. -/
def bracketed (fl : Flags) (cs : List Char) : Option (Nested CodePoints × List Char) := do
  let (negated, first, rest) := openClass fl cs
  let (t, rest) ← classItems fl (rest.length + 1) none first rest
  let s ← fl.negateFolded negated t.value
  return (⟨s, t.depth + 1⟩, rest)

end Descent.Pattern
