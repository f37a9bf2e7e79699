import Descent.Text.CodePoints

/-!
# Byte ranges

The UTF-8 forms of the characters of a set, described byte by byte: a range of code points
falls into pieces of which the first bytes, the second bytes and so on may be chosen
independently of each other. The pieces are in order, and so are their descriptions.
-/
namespace Descent.ByteRanges

/-- For each byte of some encodings, the least and the greatest it may be. -/
abbrev Sequence := List (UInt8 × UInt8)

/-- Parts the code points from `first` to `last` at the boundaries of whole blocks: first what
lies before and after the whole blocks of the smallest size, then in between by the greater
sizes. -/
def pieces : List Nat → Nat → Nat → List (Nat × Nat)
  | [], first, last => [(first, last)]
  | size :: sizes, first, last =>
    if first / size = last / size then [(first, last)]
    else
      let start := (first + size - 1) / size * size
      let stop := (last + 1) / size * size
      (if first < start then [(first, start - 1)] else [])
        ++ (if start < stop then pieces sizes start (stop - 1) else [])
        ++ (if stop ≤ last then [(stop, last)] else [])

/-- The code points whose encodings have one length, without the surrogates, and the sizes of the
blocks in which all bytes up to the last, the second last and so on agree. -/
def lengths : List (Nat × Nat × List Nat) :=
  [(0x0, 0x7F, []), (0x80, 0x7FF, [64]), (0x800, 0xD7FF, [64, 4096]),
   (0xE000, 0xFFFF, [64, 4096]), (0x10000, 0x10FFFF, [64, 4096, 262144])]

/-- The bytes between the encodings of two code points. -/
def between (first last : Nat) : Sequence :=
  (String.utf8EncodeChar (Char.ofNat first)).zip (String.utf8EncodeChar (Char.ofNat last))

/-- The encodings of the characters of a set. -/
def ofSet (s : CodePoints) : List Sequence :=
  s.flatMap fun (first, last) =>
    lengths.flatMap fun (least, greatest, sizes) =>
      let first := max first least
      let last := min last greatest
      if first ≤ last then
        (pieces sizes first last).map fun (first, last) => between first last
      else []

end Descent.ByteRanges
