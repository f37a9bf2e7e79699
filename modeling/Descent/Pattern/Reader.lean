import Descent.Numeral
import Descent.Pattern.Bracketed
import Descent.Pattern.NormalForm
import Descent.Text.Letters

/-!
# Reading patterns

The written form of regular expressions. It is read from left to right: items collect into the
current concatenation, finished concatenations into the branches of the current alternation, and
an opening parenthesis sets both aside until it is closed. Flags hold from where they are set to
the end of the enclosing group, across its branches.
-/
namespace Descent.Pattern

/-- What has been read as part of a concatenation. -/
inductive Item where
  | node (p : Nested Pattern)
  /-- A change of flags, which cannot be repeated. -/
  | directive

def Item.depth : Item → Nat
  | node p => p.depth
  | directive => 0

/-- What an open group returns to, and its number if it captures. -/
structure Group where
  flags : Flags
  items : List Item
  branches : List (Nested Pattern)
  number : Option Nat

/-- The state of reading. Lists have their latest entry first. -/
structure Reader where
  flags : Flags := {}
  items : List Item := []
  branches : List (Nested Pattern) := []
  groups : List Group := []
  /-- How many groups that capture have been opened. -/
  captures : Nat := 0
  names : List (List Char) := []

/-- The largest number of repetitions that can be written. -/
def maxCount : Nat := 4294967295

/-- The leading decimal digits. -/
def decimalDigits (fl : Flags) : Nat → List Char → List Char × List Char
  | n + 1, c :: cs =>
    if c.isDigit then
      let (digits, rest) := decimalDigits fl n (fl.skip cs)
      (c :: digits, rest)
    else ([], c :: cs)
  | _, cs => ([], cs)

/-- A number of repetitions, with white space around it. -/
def count (fl : Flags) (cs : List Char) : Option (Nat × List Char) :=
  let (digits, rest) := decimalDigits fl cs.length (cs.dropWhile isBlank)
  if digits.isEmpty || maxCount < Numeral.value digits then none
  else some (Numeral.value digits, rest.dropWhile isBlank)

/-- The flags of a group up to a colon or a closing parenthesis. No flag is named twice, and a
hyphen, from which on flags are cleared, comes at most once and not last. -/
def groupFlags (seen : List Char) (fl : Flags) : List Char → Option (List Char × Flags × List Char)
  | [] => none
  | c :: cs =>
    if c == ':' || c == ')' then
      if seen.head? == some '-' then none else some (seen, fl, c :: cs)
    else if seen.contains c then none
    else if c == '-' then groupFlags (c :: seen) fl cs
    else do groupFlags (c :: seen) (← fl.change (!seen.contains '-') c) cs

def isNameStart (c : Char) : Bool :=
  c == '_' || CodePoints.letters.contains c

def isNamePart (c : Char) : Bool :=
  c == '_' || c == '.' || c == '[' || c == ']' || CodePoints.letters.contains c
    || CodePoints.numerals.contains c

/-- The name of a group up to its closing angle bracket. -/
def groupName (cs : List Char) : Option (List Char × List Char) :=
  let name := cs.takeWhile (· != '>')
  match name, cs.dropWhile (· != '>') with
  | c :: more, _ :: rest =>
    if isNameStart c && more.all isNamePart then some (name, rest) else none
  | _, _ => none

namespace Reader

/-- The items read so far, as one pattern. -/
def concatenation (items : List Item) : Nested Pattern :=
  let joined := items.foldl (fun after item =>
    match item with
    | .directive => after
    | .node p => p.value.andThen after) .empty
  ⟨joined, depthAbreast (items.map Item.depth)⟩

/-- The branches read so far, as one pattern. -/
def alternation (r : Reader) : Nested Pattern :=
  let last := concatenation r.items
  match r.branches with
  | [] => last
  | branches =>
    ⟨oneOf (branches.foldl (fun after p => p.value :: after) [last.value]),
      depthAbreast (last.depth :: branches.map Nested.depth)⟩

/-- Adds a pattern to the current concatenation. -/
def push (r : Reader) (p : Nested Pattern) : Reader :=
  { r with items := .node p :: r.items }

/-- Adds a character set. -/
def pushSet (r : Reader) (s : CodePoints) : Reader :=
  r.push (.leaf (ofSet r.flags.alphabet s))

/-- Adds a condition on the place. -/
def pushLook (r : Reader) (l : Look) : Reader :=
  r.push (.leaf (.look l))

/-- Adds a character, in either case if the flags say so. -/
def pushChar (r : Reader) (c : Char) : Reader :=
  r.pushSet (if r.flags.admits c then r.flags.fold (.singleton c) else .singleton c)

/-- Repeats the item read last. -/
def repeatLast (r : Reader) (least : Nat) (most : Option Nat) (lazyMark : Bool) :
    Option Reader :=
  match r.items with
  | .node p :: items =>
    let repeated := p.value.times least most (lazyMark == r.flags.swapGreed)
    some { r with items := .node ⟨repeated, p.depth + 1⟩ :: items }
  | _ => none

/-- Sets the current alternation aside for a group with flags `fl`. -/
def openGroup (r : Reader) (fl : Flags) : Reader :=
  { r with flags := fl, items := [], branches := [],
           groups := ⟨r.flags, r.items, r.branches, none⟩ :: r.groups }

/-- Sets the current alternation aside for a group that captures. -/
def openCapture (r : Reader) : Reader :=
  let number := r.captures + 1
  { r with items := [], branches := [], captures := number,
           groups := ⟨r.flags, r.items, r.branches, some number⟩ :: r.groups }

def openNamed (r : Reader) (cs : List Char) : Option (Reader × List Char) := do
  let (name, rest) ← groupName cs
  if r.names.contains name then none
  else return ({ r.openCapture with names := name :: r.names }, rest)

/-- What follows an opening parenthesis. -/
def parenthesis (r : Reader) (cs : List Char) : Option (Reader × List Char) :=
  match r.flags.skip cs with
  | '?' :: 'P' :: '<' :: rest => r.openNamed rest
  | '?' :: '<' :: '=' :: _ => none
  | '?' :: '<' :: '!' :: _ => none
  | '?' :: '<' :: rest => r.openNamed rest
  | '?' :: rest => do
    let (seen, fl, rest) ← groupFlags [] r.flags rest
    match rest with
    | ':' :: rest => return (r.openGroup fl, rest)
    | _ :: rest =>
      if seen.isEmpty then none
      else return ({ r with flags := fl, items := .directive :: r.items }, rest)
    | [] => none
  | rest => some (r.openCapture, rest)

/-- Closes the innermost group. -/
def closeGroup (r : Reader) : Option Reader :=
  match r.groups with
  | [] => none
  | g :: groups =>
    let p := r.alternation
    let value := match g.number with
      | none => p.value
      | some n => .group n p.value
    some { r with flags := g.flags, items := .node ⟨value, p.depth + 1⟩ :: g.items,
                  branches := g.branches, groups := groups }

/-- Repeats the item read last, lazily if a question mark follows. -/
def repeatMarked (r : Reader) (least : Nat) (most : Option Nat) (cs : List Char) :
    Option (Reader × List Char) :=
  match cs with
  | '?' :: rest => (r.repeatLast least most true).map (·, rest)
  | _ => (r.repeatLast least most false).map (·, cs)

/-- A counted repetition, from after its opening brace on. -/
def counted (r : Reader) (cs : List Char) : Option (Reader × List Char) := do
  let (least, rest) ← count r.flags (r.flags.skip cs)
  let (most, rest) ←
    match rest with
    | ',' :: rest =>
      match r.flags.skip rest with
      | '\x7d' :: rest => some (none, '\x7d' :: rest)
      | rest => (count r.flags rest).map fun (n, rest) => (some n, rest)
    | rest => some (some least, rest)
  match rest with
  | '\x7d' :: rest =>
    if most.any (· < least) then none
    else r.repeatMarked least most (r.flags.skip rest)
  | _ => none

/-- Reads from `c` on what comes next. -/
def step (r : Reader) (c : Char) (cs : List Char) : Option (Reader × List Char) :=
  match c with
  | '(' => r.parenthesis cs
  | ')' => r.closeGroup.map (·, cs)
  | '|' => some ({ r with items := [], branches := concatenation r.items :: r.branches }, cs)
  | '[' => (bracketed r.flags cs).map fun (s, rest) =>
    (r.push ⟨ofSet r.flags.alphabet s.value, s.depth⟩, rest)
  | '?' => r.repeatMarked 0 (some 1) cs
  | '*' => r.repeatMarked 0 none cs
  | '+' => r.repeatMarked 1 none cs
  | '\x7b' => r.counted cs
  | '.' => r.flags.dot?.map fun s => (r.pushSet s, cs)
  | '^' => some (r.pushLook r.flags.lineStart, cs)
  | '$' => some (r.pushLook r.flags.lineEnd, cs)
  | '\\' =>
    (escape r.flags cs).map fun
      | (.literal c, rest) => (r.pushChar c, rest)
      | (.set s, rest) => (r.pushSet s, rest)
      | (.look l, rest) => (r.pushLook l, rest)
  | c => some (r.pushChar c, cs)

/-- What has been read when the text is at its end: all groups must be closed by then. -/
def finish (r : Reader) : Option Pattern :=
  let p := r.alternation
  if r.groups.isEmpty ∧ p.depth ≤ maxDepth then some p.value else none

/-- Reads to the end of the text. -/
def loop : Nat → Reader → List Char → Option Pattern
  | 0, _, _ => none
  | n + 1, r, cs =>
    match r.flags.skip cs with
    | [] => r.finish
    | c :: cs => do
      let (r, rest) ← r.step c cs
      loop n r rest

end Reader

/-- The pattern that a text denotes, if it is well formed and does not nest too deeply. -/
def read? (text : List Char) : Option Pattern :=
  Reader.loop (text.length + 1) {} text

end Descent.Pattern
