import Descent.Pattern.Syntax
import Descent.Text.ByteRanges

/-!
# Storage

How many bytes the byte programs of a pattern would take: programs that read the UTF-8 form of a
text, one forward and one backward. Patterns are accepted or refused by this measure, which is
computed from the pattern alone.

A step takes as many bytes as any other, and a step that forks some more for each continuation.
Steps that are alike within a set of characters are shared.
-/
namespace Descent.Pattern

/-- The direction in which a program reads. -/
inductive Direction where
  | forward
  | backward
  deriving DecidableEq

/-- The bytes of a step. -/
def stepSize : Nat := 32

/-- The bytes of an edge, by which a step goes on to another at bytes of a range. -/
def edgeSize : Nat := 8

/-- The bytes of a continuation of a step that reads nothing. -/
def branchSize : Nat := 4

/-! ## Sets -/

/-- Sequences by their first range. -/
def byHead : List ByteRanges.Sequence → List ((UInt8 × UInt8) × List ByteRanges.Sequence)
  | [] => []
  | [] :: more => byHead more
  | (b :: rest) :: more =>
    match byHead more with
    | (c, rests) :: groups =>
      if b = c then (b, rest :: rests) :: groups else (b, [rest]) :: (c, rests) :: groups
    | [] => [(b, [rest])]

/-- What remains to be read after each part that some of the sequences start with, none of them
complete. No sequence has more than `depth` ranges. -/
def remainders : Nat → List ByteRanges.Sequence → List (List ByteRanges.Sequence)
  | 0, _ => []
  | depth + 1, seqs =>
    seqs :: ((byHead seqs).map fun g => g.2).flatMap fun rests =>
      if rests.all List.isEmpty then [] else remainders depth rests

/-- Forward, there is a step for every different remainder, with an edge for each byte range. -/
def forwardSize (seqs : List ByteRanges.Sequence) : Nat :=
  (remainders 4 seqs).eraseDups.foldl
    (fun n rests => n + stepSize + edgeSize * (byHead rests).length) stepSize

/-- How many ranges two sequences start with alike. -/
def sharedLength : ByteRanges.Sequence → ByteRanges.Sequence → Nat
  | b :: s, c :: t => if b = c then sharedLength s t + 1 else 0
  | _, _ => 0

/-- Backward, there is a step for every different start of a sequence, and a fork to all of
them. -/
def backwardSize (seqs : List ByteRanges.Sequence) : Nat :=
  let steps := (seqs.zip ([] :: seqs)).foldl
    (fun n (s, before) => n + (s.length - sharedLength s before)) 0
  stepSize * (steps + 2) + branchSize * seqs.length

/-- The bytes that a set of characters takes. -/
def setSize (d : Direction) (s : CodePoints) : Nat :=
  if s.all fun b => b.2 < 0x80 then 2 * stepSize + edgeSize * s.length
  else
    match d with
    | .forward => forwardSize (ByteRanges.ofSet s)
    | .backward => backwardSize (ByteRanges.ofSet s)

/-! ## Texts to choose from -/

/-- Parts a list of texts at its empty ones. -/
def partAtEmpty : List (List UInt8) → List (List (List UInt8))
  | [] => [[]]
  | [] :: texts => [] :: partAtEmpty texts
  | text :: texts =>
    match partAtEmpty texts with
    | chunk :: more => (text :: chunk) :: more
    | [] => [[text]]

/-- Parts a list of texts at its empty ones, where those that come first of all count as one. -/
def chunks : List (List UInt8) → List (List (List UInt8))
  | [] :: texts => [] :: partAtEmpty (texts.dropWhile List.isEmpty)
  | texts => partAtEmpty texts

/-- Texts that are not empty by their first byte, in the order in which these occur. -/
def byFirst (texts : List (List UInt8)) : List (List (List UInt8)) :=
  (texts.filterMap List.head?).eraseDups.map fun b =>
    texts.filterMap fun text =>
      match text with
      | [] => none
      | c :: rest => if c = b then some rest else none

/-- The bytes that a choice between texts of at most `depth` bytes takes beyond its last step:
one fork at each place that texts lead to, between the chunks that are parted by the texts which
end there. -/
def choiceSize : Nat → List (List UInt8) → Nat
  | 0, _ => 0
  | depth + 1, texts =>
    if texts.all List.isEmpty then 0
    else
      let parts := (chunks texts).map byFirst
      let full := parts.filter fun groups => !groups.isEmpty
      let forks := stepSize + branchSize * (full.length + (parts.length - 1))
      full.foldl (fun n groups =>
        groups.foldl (fun n texts => n + choiceSize depth texts)
          (n + stepSize + (if groups.length = 1 then 0 else edgeSize * groups.length))) forks

/-! ## Patterns -/

/-- What is known of the storage of a part. -/
inductive Storage where
  /-- A text, as the bytes in the order in which they are read. -/
  | text (bytes : List UInt8)
  /-- Steps that take `size` bytes, and `exit` more when they are linked to what follows. -/
  | steps (size exit : Nat)
  /-- Branches that take `linked` bytes together with their links, and the texts that they are
  if all of them are texts. -/
  | choice (texts : Option (List (List UInt8))) (linked : Nat)

namespace Storage

def size : Storage → Nat
  | text bytes => stepSize * bytes.length
  | steps size _ => size
  | choice none linked => linked + 2 * stepSize
  | choice (some texts) _ =>
    stepSize + choiceSize (texts.foldl (fun n text => max n text.length) 0 + 1) texts

/-- The bytes that a link to what follows takes. -/
def exit : Storage → Nat
  | text _ => 0
  | steps _ exit => exit
  | choice _ _ => 0

/-- The bytes that a part takes when it is linked to what follows. -/
def closed (s : Storage) : Nat := s.size + s.exit

/-- The bytes that a part takes as a branch. -/
def asBranch : Storage → Nat
  | choice _ linked => linked
  | s => s.closed + branchSize

def texts? : Storage → Option (List (List UInt8))
  | text bytes => some [bytes]
  | choice texts _ => texts
  | steps _ _ => none

end Storage

/-- The storage of at least `least` and at most `most` times a part, where `consumes` tells
whether every repetition is known to consume a character. -/
def repeatedStorage (s : Storage) (consumes : Bool) : Nat → Option Nat → Storage
  | 0, none =>
    if consumes then .steps (s.closed + stepSize + branchSize) branchSize
    else .steps (s.closed + 3 * stepSize + 4 * branchSize) 0
  | n + 1, none => .steps ((n + 1) * s.closed + stepSize + branchSize) branchSize
  | 0, some 1 => .steps (s.closed + 2 * stepSize + 2 * branchSize) 0
  | n, some m =>
    let start := if n = 0 then stepSize else n * s.closed
    if m ≤ n then .steps (n * s.closed - s.exit) s.exit
    else .steps (start + stepSize + (m - n) * (s.closed + stepSize + 2 * branchSize)) 0

/-- Whether some part of the pattern matches nothing at all. -/
def hasVoid : Pattern → Bool
  | set _ s => s.isEmpty
  | seq p q => p.hasVoid || q.hasVoid
  | alt p q => p.hasVoid || q.hasVoid
  | repeated p _ _ _ => p.hasVoid
  | group _ p => p.hasVoid
  | empty => false
  | literal _ => false
  | look _ => false

/-- The storage of a pattern in the program that reads in one direction. Only the program that
reads forward notes where groups start and end. -/
def storage (d : Direction) : Pattern → Storage
  | empty => .steps stepSize 0
  | literal text =>
    let bytes := text.flatMap String.utf8EncodeChar
    .text (if d = .forward then bytes else bytes.reverse)
  | set _ s => .steps (setSize d s) 0
  | look _ => .steps stepSize 0
  | seq p q =>
    let p := p.storage d
    let q := q.storage d
    if d = .forward then .steps (p.closed + q.size) q.exit else .steps (q.closed + p.size) p.exit
  | alt p q =>
    let p := p.storage d
    let q := q.storage d
    .choice (do return (← p.texts?) ++ (← q.texts?)) (p.asBranch + q.asBranch)
  | repeated p least most _ => repeatedStorage (p.storage d) (p.consumes && !p.hasVoid) least most
  | group _ p =>
    let p := p.storage d
    if d = .forward then .steps (p.closed + 2 * stepSize) 0 else .steps p.size p.exit

/-- Whether what the pattern starts with shows that a match starts where the text does. -/
def startsText : Pattern → Bool
  | look l => l == .textStart
  | seq p q => p.startsText || (p.neverConsumes && q.startsText)
  | alt p q => p.startsText && q.startsText
  | repeated p least _ _ => least != 0 && p.startsText
  | group _ p => p.startsText
  | empty => false
  | literal _ => false
  | set _ _ => false

/-- Whether what the pattern ends with shows that a match ends where the text does. -/
def endsText : Pattern → Bool
  | look l => l == .textEnd
  | seq p q => q.endsText || (q.neverConsumes && p.endsText)
  | alt p q => p.endsText && q.endsText
  | repeated p least _ _ => least != 0 && p.endsText
  | group _ p => p.endsText
  | empty => false
  | literal _ => false
  | set _ _ => false

/-- The bytes before a program that reads from any place on: a loop over all bytes, unless only
the first place counts. -/
def leadSize (anchored : Bool) : Nat :=
  if anchored then stepSize else 3 * stepSize + 4 * branchSize

/-- The bytes of a whole program. A match as a whole is noted like that of a group. -/
def programSize (d : Direction) (p : Pattern) : Nat :=
  match d with
  | .forward => leadSize p.startsText + (p.storage d).closed + 3 * stepSize
  | .backward => leadSize p.endsText + (p.storage d).closed + stepSize

/-- The bytes of the larger one of the two programs. -/
def largestProgram (p : Pattern) : Nat :=
  max (p.programSize .forward) (p.programSize .backward)

end Descent.Pattern
