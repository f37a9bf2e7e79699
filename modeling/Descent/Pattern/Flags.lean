import Descent.Pattern.Syntax

/-!
# Flags

Settings that a pattern can change from within, and what they mean for reading it: which
characters are left out, what ends a line, and which sets are taken in either case.
-/
namespace Descent.Pattern

/-- Settings that a pattern can change from within. -/
structure Flags where
  /-- Letters match in either case. -/
  caseless : Bool := false
  /-- Line starts and line ends count as starts and ends. -/
  multiline : Bool := false
  /-- A dot matches the characters that end a line too. -/
  dotAll : Bool := false
  lineBreak : LineBreak := .feed
  /-- Repetitions are lazy, and greedy where marked. -/
  swapGreed : Bool := false
  alphabet : Alphabet := .unicode
  /-- White space and comments are left out. -/
  verbose : Bool := false

namespace Flags

/-- Sets or clears one flag. -/
def change (fl : Flags) (value : Bool) : Char → Option Flags
  | 'i' => some { fl with caseless := value }
  | 'm' => some { fl with multiline := value }
  | 's' => some { fl with dotAll := value }
  | 'R' => some { fl with lineBreak := if value then .returnOrFeed else .feed }
  | 'U' => some { fl with swapGreed := value }
  | 'u' => some { fl with alphabet := if value then .unicode else .ascii }
  | 'x' => some { fl with verbose := value }
  | _ => none

end Flags

def isBlank (c : Char) : Bool := Unicode.whiteSpace.contains c

/-- Drops white space, and comments from a number sign to the end of the line. -/
def skipBlanks (inComment : Bool) : List Char → List Char
  | [] => []
  | c :: cs =>
    if inComment then skipBlanks (c != '\n') cs
    else if isBlank c then skipBlanks false cs
    else if c == '#' then skipBlanks true cs
    else c :: cs

namespace Flags

/-- Drops what a verbose pattern leaves out. -/
def skip (fl : Flags) (cs : List Char) : List Char :=
  if fl.verbose then skipBlanks false cs else cs

/-- Case is ignored where the flags say so. -/
def fold (fl : Flags) (s : CodePoints) : CodePoints :=
  if fl.caseless then fl.alphabet.caseless s else s

/-- Whether a set may hold the character: without Unicode, sets are of ASCII characters. -/
def admits (fl : Flags) (c : Char) : Bool :=
  fl.alphabet == .unicode || c.toNat < 128

/-- The complement of a set, which is no set of ASCII characters. -/
def complement? (fl : Flags) (s : CodePoints) : Option CodePoints :=
  match fl.alphabet with
  | .ascii => none
  | .unicode => some s.complement

/-- Negates a set where that is asked for, after folding case. -/
def negateFolded (fl : Flags) (negated : Bool) (s : CodePoints) : Option CodePoints :=
  if negated then fl.complement? (fl.fold s) else some (fl.fold s)

/-- What a dot stands for. -/
def dot? (fl : Flags) : Option CodePoints :=
  match fl.alphabet with
  | .ascii => none
  | .unicode => some (if fl.dotAll then .everything else fl.lineBreak.withinLine)

def lineStart (fl : Flags) : Look :=
  if fl.multiline then .lineStart fl.lineBreak else .textStart

def lineEnd (fl : Flags) : Look :=
  if fl.multiline then .lineEnd fl.lineBreak else .textEnd

end Flags
end Descent.Pattern
