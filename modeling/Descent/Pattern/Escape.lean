import Descent.Pattern.Property

/-!
# Escapes

What a backslash starts: a character given by number or by letter, a character taken literally,
one of the common sets, the characters with a property, or a condition on the place. Every loop
takes the number of characters left as its bound, and consumes at least one of them a round.
-/
namespace Descent.Pattern

def hexValue? (c : Char) : Option Nat :=
  if c.isDigit then some (c.toNat - 48)
  else if 'a' ≤ c ∧ c ≤ 'f' then some (c.toNat - 87)
  else if 'A' ≤ c ∧ c ≤ 'F' then some (c.toNat - 55)
  else none

/-- The character with a code point, if it has one. -/
def scalar? (n : Nat) : Option Char :=
  if n.isValidChar then some (Char.ofNat n) else none

/-- Exactly `n` hexadecimal digits. -/
def hexDigits (fl : Flags) : Nat → Nat → List Char → Option (Nat × List Char)
  | 0, value, cs => some (value, cs)
  | n + 1, value, cs =>
    match fl.skip cs with
    | [] => none
    | c :: rest => do hexDigits fl n (16 * value + (← hexValue? c)) rest

/-- One or more hexadecimal digits up to a closing brace. -/
def hexBraced (fl : Flags) : Nat → Option Nat → List Char → Option (Nat × List Char)
  | 0, _, _ => none
  | n + 1, value, cs =>
    match fl.skip cs with
    | [] => none
    | '\x7d' :: rest => value.map (·, rest)
    | c :: rest => do hexBraced fl n (some (16 * value.getD 0 + (← hexValue? c))) rest

/-- A code point of `n` digits, or of any number of them in braces. Two digits alone give a byte
where the pattern is not in Unicode, and no byte outside ASCII is a character. -/
def codePoint (fl : Flags) (n : Nat) (cs : List Char) : Option (Char × List Char) := do
  match fl.skip cs with
  | '\x7b' :: rest => do
    let (value, rest) ← hexBraced fl (rest.length + 1) none rest
    return (← scalar? value, rest)
  | cs => do
    let (value, rest) ← hexDigits fl n 0 cs
    let c ← scalar? value
    if n = 2 ∧ !fl.admits c then none else return (c, rest)

/-- What an escape stands for. -/
inductive Escape where
  | literal (c : Char)
  | set (s : CodePoints)
  | look (l : Look)

/-- The letters and hyphens up to a closing brace. -/
def boundaryName (fl : Flags) : Nat → List Char → Option (List Char × List Char)
  | 0, _ => none
  | n + 1, cs =>
    match cs with
    | '\x7d' :: rest => some ([], rest)
    | c :: rest =>
      if c.isAlpha || c == '-' then do
        let (name, rest) ← boundaryName fl n (fl.skip rest)
        return (c :: name, rest)
      else none
    | [] => none

/-- A word boundary, which may be named in braces. Braces that start with anything but a letter
or a hyphen are left for a repetition. -/
def boundary (fl : Flags) (cs : List Char) : Option (WordEdge × List Char) :=
  match cs with
  | '\x7b' :: rest =>
    match fl.skip rest with
    | [] => none
    | c :: rest =>
      if c.isAlpha || c == '-' then do
        let (name, rest) ← boundaryName fl (rest.length + 2) (c :: rest)
        match String.ofList name with
        | "start" => return (.start, rest)
        | "end" => return (.stop, rest)
        | "start-half" => return (.noneBefore, rest)
        | "end-half" => return (.noneAfter, rest)
        | _ => none
      else some (.boundary, cs)
  | _ => some (.boundary, cs)

/-- An escape, from the character after the backslash on. -/
def escape (fl : Flags) : List Char → Option (Escape × List Char)
  | [] => none
  | c :: cs =>
    match c with
    | 'x' => (codePoint fl 2 cs).map fun (c, rest) => (.literal c, rest)
    | 'u' => (codePoint fl 4 cs).map fun (c, rest) => (.literal c, rest)
    | 'U' => (codePoint fl 8 cs).map fun (c, rest) => (.literal c, rest)
    | 'd' => some (.set fl.alphabet.digit, cs)
    | 's' => some (.set fl.alphabet.space, cs)
    | 'w' => some (.set fl.alphabet.word, cs)
    | 'D' => (fl.complement? fl.alphabet.digit).map fun s => (.set s, cs)
    | 'S' => (fl.complement? fl.alphabet.space).map fun s => (.set s, cs)
    | 'W' => (fl.complement? fl.alphabet.word).map fun s => (.set s, cs)
    | 'p' => (property fl false cs).map fun (s, rest) => (.set s, rest)
    | 'P' => (property fl true cs).map fun (s, rest) => (.set s, rest)
    | 'a' => some (.literal '\x07', cs)
    | 't' => some (.literal '\t', cs)
    | 'n' => some (.literal '\n', cs)
    | 'v' => some (.literal '\x0b', cs)
    | 'f' => some (.literal '\x0c', cs)
    | 'r' => some (.literal '\r', cs)
    | 'A' => some (.look .textStart, cs)
    | 'z' => some (.look .textEnd, cs)
    | 'b' => (boundary fl cs).map fun (e, rest) => (.look (.word e fl.alphabet), rest)
    | 'B' => some (.look (.word .noBoundary fl.alphabet), cs)
    | '<' => some (.look (.word .start fl.alphabet), cs)
    | '>' => some (.look (.word .stop fl.alphabet), cs)
    | c => if c.toNat < 128 && !c.isAlphanum then some (.literal c, cs) else none

end Descent.Pattern
