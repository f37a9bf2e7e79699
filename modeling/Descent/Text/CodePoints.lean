/-!
# Sets of code points

A set of characters written as a list of inclusive ranges of code points. The ranges are in
order and do not touch, so that a set has one written form, and the operations on sets are walks
along the ranges. Surrogates are no characters, and no range starts or ends at one.
-/
namespace Descent

/-- Inclusive ranges of code points. -/
abbrev CodePoints := List (Nat × Nat)

namespace CodePoints

/-- Whether `c` lies in one of the ranges. -/
def contains (ranges : CodePoints) (c : Char) : Bool :=
  ranges.any fun (first, last) => first ≤ c.toNat && c.toNat ≤ last

theorem contains_iff (r : CodePoints) (c : Char) :
    contains r c = true ↔ ∃ b ∈ r, b.1 ≤ c.toNat ∧ c.toNat ≤ b.2 := by
  simp [contains]

/-- The characters from `first` to `last`. -/
def range (first last : Char) : CodePoints := [(first.toNat, last.toNat)]

def singleton (c : Char) : CodePoints := range c c

/-- The only character of a set that has a single one. -/
def single? : CodePoints → Option Char
  | [(first, last)] => if first = last then some (Char.ofNat first) else none
  | _ => none

/-- The last code point of all. -/
def maximum : Nat := 0x10FFFF

def everything : CodePoints := [(0, maximum)]

/-- The next code point that is a character. -/
def following (n : Nat) : Nat := if n = 0xD7FF then 0xE000 else n + 1

/-- The last code point before `n` that is a character. -/
def preceding (n : Nat) : Nat := if n = 0xE000 then 0xD7FF else n - 1

/-! ## Union -/

/-- Puts a range in front of ranges that start no earlier, joined with those it touches. -/
def add (b : Nat × Nat) : CodePoints → CodePoints
  | [] => [b]
  | c :: rest =>
    if c.1 ≤ b.2 + 1 ∧ b.1 ≤ c.2 + 1 then add (min b.1 c.1, max b.2 c.2) rest
    else b :: c :: rest

/-- The set of ranges given in any order. -/
def ofRanges (ranges : List (Nat × Nat)) : CodePoints :=
  (ranges.mergeSort fun b c => b.1 ≤ c.1).foldr add []

def union (r s : CodePoints) : CodePoints :=
  (List.merge r s fun b c => b.1 ≤ c.1).foldr add []

/-- The union of several sets. -/
def unions (sets : List CodePoints) : CodePoints := ofRanges sets.flatten

/-! ## Intersection, difference and complement -/

def intersection : CodePoints → CodePoints → CodePoints
  | [], _ => []
  | _, [] => []
  | b :: r, c :: s =>
    let common := (max b.1 c.1, min b.2 c.2)
    let more := if b.2 < c.2 then intersection r (c :: s) else intersection (b :: r) s
    if common.1 ≤ common.2 then common :: more else more
termination_by r s => r.length + s.length

/-- What is in the first set and not in the second. -/
def difference : CodePoints → CodePoints → CodePoints
  | [], _ => []
  | r, [] => r
  | b :: r, c :: s =>
    if c.2 < b.1 then difference (b :: r) s
    else if b.2 < c.1 then b :: difference r (c :: s)
    else
      let more :=
        if c.2 < b.2 then difference ((following c.2, b.2) :: r) s else difference r (c :: s)
      if b.1 < c.1 then (b.1, preceding c.1) :: more else more
termination_by r s => r.length + s.length

/-- What is in one of two sets but not in both. -/
def symmetricDifference (r s : CodePoints) : CodePoints :=
  difference (union r s) (intersection r s)

/-- The gaps after a range that ends at `last`, up to the last code point. The bounds of a gap are
put in order: ranges that meet across the surrogates count as having their own two bounds between
them. -/
def gapsAfter (last : Nat) : CodePoints → CodePoints
  | [] => if last < maximum then [(following last, maximum)] else []
  | b :: rest =>
    (min (following last) (preceding b.1), max (following last) (preceding b.1))
      :: gapsAfter b.2 rest

/-- The gaps between the ranges. -/
def complement : CodePoints → CodePoints
  | [] => everything
  | b :: rest =>
    if 0 < b.1 then (0, preceding b.1) :: gapsAfter b.2 rest else gapsAfter b.2 rest

end CodePoints
end Descent
