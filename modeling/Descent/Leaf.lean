import Descent.Outcome
import Descent.Pattern.Engine
import Descent.Cursor.Text

/-!
# Leaves

The parsers that look at atoms themselves. Most work on any kind of cursor; two more work on
text, where they take a whole stretch of it at once. Each is read as a function from a cursor to
an outcome.
-/
namespace Descent

/-- The leaves for atoms of type `α`, each with the type of the value it yields. -/
inductive Leaf (α : Type) : Type → Type where
  /-- Any atom. -/
  | any : Leaf α α
  /-- An atom that a predicate accepts; `expected` says in messages which those are. -/
  | satisfying (expected : String) (accepts : α → Bool) : Leaf α α
  /-- One particular atom. -/
  | exactly (expected : α) : Leaf α α
  /-- A run of particular atoms. -/
  | literal (expected : List α) : Leaf α (List α)
  /-- The next atom, which is not consumed. -/
  | peek : Leaf α α
  /-- The end of the source. -/
  | finish : Leaf α Unit
  /-- Whether the source has ended. Never fails. -/
  | ended : Leaf α Bool
  /-- The position. Never fails. -/
  | position : Leaf α Nat
  /-- The location, as messages give it. Never fails. -/
  | location : Leaf α String
  /-- The position, and a step to the next atom or to where the end stays. Never fails. -/
  | step : Leaf α Nat
  /-- Back to the start of the source. Never fails. -/
  | restart : Leaf α Unit

/-- The leaves that take a stretch of text. -/
inductive Stretch : Type → Type where
  /-- A particular text. -/
  | tag (expected : List Char) : Stretch (List Char)
  /-- What a pattern matches. -/
  | pattern (p : AnchoredPattern) : Stretch (List Char)

/-- The leaves for text. -/
abbrev TextLeaf (β : Type) := Leaf Char β ⊕ Stretch β

namespace Leaf
variable {κ α : Type} [Cursor κ α] [BEq α] [Atom α]

/-- The next atom, if `accepts` holds of it. -/
def readSatisfying (expected : String) (accepts : α → Bool) (c : κ) : Outcome κ ParseError α :=
  match Cursor.value? c with
  | none => .failure (.endOfInput (Cursor.location c))
  | some a =>
    if accepts a then .success a (Cursor.next c)
    else .failure (.unexpected expected (Atom.describe a) (Cursor.location c))

def readAny (c : κ) : Outcome κ ParseError α :=
  readSatisfying "" (fun _ => true) c

/-- The next atom, if it equals `x`. -/
def readExactly (x : α) (c : κ) : Outcome κ ParseError α :=
  readSatisfying (Atom.describe x) (· == x) c

/-- The atoms `xs` one after the other. The value is `xs` itself. -/
def readLiteral : List α → κ → Outcome κ ParseError (List α)
  | [], c => .success [] c
  | x :: xs, c =>
    (readExactly x c).flatMap fun _ rest =>
      (readLiteral xs rest).map fun ys _ => x :: ys

def readPeek (c : κ) : Outcome κ ParseError α :=
  match Cursor.value? c with
  | none => .failure (.endOfInput (Cursor.location c))
  | some a => .success a c

def readFinish (c : κ) : Outcome κ ParseError Unit :=
  match Cursor.value? c with
  | none => .success () c
  | some a =>
    .failure (.unexpected "end of input" (Atom.describe a) (Cursor.location c))

/-- What a leaf does at a cursor. -/
def read : {β : Type} → Leaf α β → κ → Outcome κ ParseError β
  | _, any, c => readAny c
  | _, satisfying expected accepts, c => readSatisfying expected accepts c
  | _, exactly x, c => readExactly x c
  | _, literal xs, c => readLiteral xs c
  | _, peek, c => readPeek c
  | _, finish, c => readFinish c
  | _, ended, c => .success (Cursor.atEnd c) c
  | _, position, c => .success (Cursor.position c) c
  | _, location, c => .success (Cursor.location c).display c
  | _, step, c => .success (Cursor.position c) (Cursor.next c)
  | _, restart, c => .success () (Cursor.restart c)

end Leaf

namespace Stretch

/-- The text `s`. A mismatch is reported where the text was to start, with as much of the
remaining text as was asked for. -/
def readTag (s : List Char) (c : TextCursor) : Outcome TextCursor ParseError (List Char) :=
  if s.isPrefixOf c.remaining then .success s (c.skipBytes (Utf8.byteSize s))
  else if c.remaining.isEmpty then .failure (.endOfInput (Cursor.location c))
  else .failure (.unexpected (Quoted.text s) (Quoted.text (c.remaining.take s.length))
    (Cursor.location c))

/-- What the pattern matches in the remaining text. The cursor moves to the end of the match. -/
def readPattern (p : AnchoredPattern) (c : TextCursor) :
    Outcome TextCursor ParseError (List Char) :=
  match p.find c.remaining with
  | some m => .success (m.of c.remaining) (c.skipBytes (Utf8.byteSize (m.upTo c.remaining)))
  | none =>
    if Cursor.atEnd c then .failure (.endOfInput (Cursor.location c))
    else .failure (.noMatch p.text (Cursor.location c))

def read : {β : Type} → Stretch β → TextCursor → Outcome TextCursor ParseError β
  | _, tag s, c => readTag s c
  | _, pattern p, c => readPattern p c

end Stretch

/-- What a leaf for text does at a cursor. -/
def TextLeaf.read {β : Type} : TextLeaf β → TextCursor → Outcome TextCursor ParseError β
  | .inl l, c => l.read c
  | .inr s, c => s.read c

end Descent
