import Descent.Pattern.Syntax

/-!
# Normal forms of patterns

Patterns are built by operations that keep them simple. Parts side by side are a chain to the
right without empty parts, in which neighbouring characters are one text. Branches are a chain
to the right too, but several branches that are all characters, or all sets, are one set, and
what all branches start with stands before them once.

The last rule has an effect on what is preferred: the shared start settles on a way to match
before any of the branches is tried after it.
-/
namespace Descent.Pattern

/-- A pattern that matches nothing at all. -/
def void : Pattern := set .ascii []

/-- A pattern for one character of a set. A set of one character is that character in every
alphabet, and the empty set is the same in all of them. -/
def ofSet (a : Alphabet) (s : CodePoints) : Pattern :=
  match s.single? with
  | some c => literal [c]
  | none => if s.isEmpty then void else set a s

/-- `p` followed by `q`. -/
def andThen : Pattern → Pattern → Pattern
  | empty, q => q
  | seq p r, q => p.andThen (r.andThen q)
  | p, empty => p
  | literal cs, literal ds => literal (cs ++ ds)
  | literal cs, seq (literal ds) q => seq (literal (cs ++ ds)) q
  | p, q => seq p q

/-- Patterns one after the other. -/
def concat (ps : List Pattern) : Pattern :=
  ps.foldr andThen empty

/-- The parts that stand side by side. -/
def factors : Pattern → List Pattern
  | empty => []
  | seq p q => p.factors ++ q.factors
  | p => [p]

/-- The parts of a pattern that has several side by side. -/
def severalFactors : Pattern → List Pattern
  | seq p q => (seq p q).factors
  | _ => []

/-- The branches, in the order in which they are preferred. -/
def branches : Pattern → List Pattern
  | alt p q => p.branches ++ q.branches
  | p => [p]

def ofBranches : List Pattern → Pattern
  | [] => void
  | [p] => p
  | p :: ps => alt p (ofBranches ps)

/-- The set of the one character that a pattern is. -/
def character? : Pattern → Option CodePoints
  | literal [c] => some (.singleton c)
  | _ => none

/-- The characters of a pattern that is a set. -/
def members? : Pattern → Option CodePoints
  | set _ s => some s
  | _ => none

/-- The sets that several branches are, if all are single characters or all are sets. Characters
beside sets are left as they are. -/
def sets? (ps : List Pattern) : Option (List CodePoints) :=
  ps.mapM character? <|> ps.mapM members?

/-- The first of several patterns that matches. Single characters, or sets of any alphabets, are
one set of the Unicode alphabet. -/
def firstOf (ps : List Pattern) : Pattern :=
  match ps.flatMap branches with
  | [p] => p
  | ps =>
    match sets? ps with
    | some sets => ofSet .unicode (.unions sets)
    | none => ofBranches ps

/-- The parts that two lists start with. -/
def commonStart : List Pattern → List Pattern → List Pattern
  | p :: ps, q :: qs => if p = q then p :: commonStart ps qs else []
  | _, _ => []

/-- The parts that several branches all start with. A branch of one part shares none. -/
def sharedStart : List Pattern → List Pattern
  | p :: q :: ps => (q :: ps).foldl (fun fs b => commonStart fs b.severalFactors) p.severalFactors
  | _ => []

/-- The first of several patterns that matches, after what they all start with. -/
def oneOf (ps : List Pattern) : Pattern :=
  let ps := ps.flatMap branches
  let start := sharedStart ps
  concat (start ++ [firstOf (ps.map fun p => concat (p.factors.drop start.length))])

/-- At least `least` and at most `most` times `p`. What never consumes a character need not be
repeated more than once, however often it is asked for. -/
def times (p : Pattern) (least : Nat) (most : Option Nat) (greedy : Bool) : Pattern :=
  let once := p.neverConsumes
  let least := if once then min least 1 else least
  let most := if once then some (min (most.getD 1) 1) else most
  if most = some 0 then empty
  else if least = 1 ∧ most = some 1 then p
  else repeated p least most greedy

end Descent.Pattern
