import Descent.Proofs.Cursor.InStep
import Descent.Proofs.Grammar.Simulation
import Descent.Proofs.Leaf.Walk

/-!
# Leaves that read alike

A leaf asks its cursor for the next atom and for the location to report, and moves on by single
steps. At cursors that correspond it therefore ends alike, unless it tells the position itself.
The leaves that take a stretch of text look at the remaining text and at nothing else.
-/
namespace Descent

theorem Cursor.Similar.simulation {κ κ' α : Type} [Cursor κ α] [Cursor κ' α] {R : κ → κ' → Prop}
    {P : Location → Location → Prop} (h : Cursor.Similar R P) :
    Parser.Simulation R (ParseError.Alike P) where
  beq_eq := h.beq_eq
  rejected message hcd := .rejected message (h.location hcd)
  misuse := .misuse

namespace Leaf
variable {κ κ' α β : Type} [Cursor κ α] [Cursor κ' α] [BEq α] [Atom α] {R : κ → κ' → Prop}
  {P : Location → Location → Prop} {c : κ} {d : κ'}

/-- Whether the leaf yields the place where the cursor stands. -/
def tellsPosition {β : Type} : Leaf α β → Bool
  | position | location | step => true
  | _ => false

theorem readSatisfying_alike (h : Cursor.Similar R P) (hcd : R c d) (expected : String)
    (accepts : α → Bool) : (readSatisfying expected accepts c).Alike R (ParseError.Alike P)
      (readSatisfying expected accepts d) := by
  rw [readSatisfying, readSatisfying, h.value?_eq hcd]
  split
  · exact .failure (.endOfInput (h.location hcd))
  · split
    · exact .success _ (h.next hcd)
    · exact .failure (.unexpected _ _ (h.location hcd))

theorem readLiteral_alike (h : Cursor.Similar R P) (hcd : R c d) (xs : List α) :
    (readLiteral xs c).Alike R (ParseError.Alike P) (readLiteral xs d) := by
  induction xs generalizing c d with
  | nil => exact .success [] hcd
  | cons x xs ih =>
    rw [readLiteral, readLiteral]
    exact (readSatisfying_alike h hcd _ _).flatMap fun _ _ _ hrest => (ih hrest).map (x :: ·)

omit [BEq α] [Atom α] in
theorem readPeek_alike (h : Cursor.Similar R P) (hcd : R c d) :
    (readPeek c).Alike R (ParseError.Alike P) (readPeek d) := by
  rw [readPeek, readPeek, h.value?_eq hcd]
  split
  · exact .failure (.endOfInput (h.location hcd))
  · exact .success _ hcd

theorem readFinish_alike (h : Cursor.Similar R P) (hcd : R c d) :
    (readFinish c).Alike R (ParseError.Alike P) (readFinish d) := by
  rw [readFinish, readFinish, h.value?_eq hcd]
  split
  · exact .success () hcd
  · exact .failure (.unexpected _ _ (h.location hcd))

/-- At corresponding cursors a leaf ends alike, if it does not tell its position and, should it go
back, the starts of the sources correspond too. -/
theorem read_alike (h : Cursor.Similar R P) {l : Leaf α β} (hl : l.tellsPosition = false)
    (hback : l.goesBack = true → R (Cursor.restart c) (Cursor.restart d)) (hcd : R c d) :
    (l.read c).Alike R (ParseError.Alike P) (l.read d) := by
  cases l with
  | any => exact readSatisfying_alike h hcd _ _
  | satisfying expected accepts => exact readSatisfying_alike h hcd _ _
  | exactly x => exact readSatisfying_alike h hcd _ _
  | literal xs => exact readLiteral_alike h hcd xs
  | peek => exact readPeek_alike h hcd
  | finish => exact readFinish_alike h hcd
  | ended =>
    rw [read, read, Cursor.atEnd, Cursor.atEnd, h.value?_eq hcd]
    exact .success _ hcd
  | restart => exact .success () (hback rfl)
  | position | location | step => simp [tellsPosition] at hl

end Leaf

namespace Stretch
variable {β : Type} {P : Location → Location → Prop} {c d : TextCursor}

theorem inStep_skipBytes (hc : c.OnBoundary) (hd : d.OnBoundary)
    (hr : c.remaining = d.remaining) {xs ys : List Char} (hxs : c.remaining = xs ++ ys) :
    Cursor.InStep c d (c.skipBytes (Utf8.byteSize xs)) (d.skipBytes (Utf8.byteSize xs)) :=
  ⟨xs.length, hc.iterate_next_length hxs, hd.iterate_next_length (hr ▸ hxs)⟩

theorem readTag_alike (hc : c.OnBoundary) (hd : d.OnBoundary) (hr : c.remaining = d.remaining)
    (hP : P (Cursor.location c) (Cursor.location d)) (s : List Char) :
    (readTag s c).Alike (Cursor.InStep c d) (ParseError.Alike P) (readTag s d) := by
  rw [readTag, readTag, ← hr]
  split
  · next hs =>
    obtain ⟨ys, hys⟩ := List.isPrefixOf_iff_prefix.mp hs
    exact .success s (inStep_skipBytes hc hd hr hys.symm)
  · split
    · exact .failure (.endOfInput hP)
    · exact .failure (.unexpected _ _ hP)

/-- Whatever the pattern finds, it finds in the remaining text. -/
theorem readPattern_alike (hc : c.OnBoundary) (hd : d.OnBoundary)
    (hr : c.remaining = d.remaining) (hP : P (Cursor.location c) (Cursor.location d))
    (p : AnchoredPattern) :
    (readPattern p c).Alike (Cursor.InStep c d) (ParseError.Alike P) (readPattern p d) := by
  have hend : Cursor.atEnd c = Cursor.atEnd d := congrArg (fun r => r.head?.isNone) hr
  rw [readPattern, readPattern, ← hr, ← hend]
  split
  · exact .success _ (inStep_skipBytes hc hd hr (List.take_append_drop _ _).symm)
  · split
    · exact .failure (.endOfInput hP)
    · exact .failure (.noMatch _ hP)

theorem read_alike (hc : c.OnBoundary) (hd : d.OnBoundary) (hr : c.remaining = d.remaining)
    (hP : P (Cursor.location c) (Cursor.location d)) (s : Stretch β) :
    (s.read c).Alike (Cursor.InStep c d) (ParseError.Alike P) (s.read d) := by
  cases s with
  | tag s => exact readTag_alike hc hd hr hP s
  | pattern p => exact readPattern_alike hc hd hr hP p

end Stretch
end Descent
