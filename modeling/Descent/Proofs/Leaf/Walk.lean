import Descent.Leaf
import Descent.Proofs.Cursor.Walk

/-!
# Where leaves leave off

Every leaf of the library but the return to the start leaves off at a cursor that the one it was
given reaches by steps: it consumes nothing, an atom, or a stretch of atoms. Programs may bring
leaves of their own, which promise as much.
-/
namespace Descent

namespace Leaf
variable {κ α β : Type} [Cursor κ α] [BEq α] [Atom α] {c rest : κ}

/-- Whether the leaf goes back to the start of the source. -/
def goesBack {β : Type} : Leaf α β → Bool
  | restart => true
  | _ => false

theorem reaches_of_readSatisfying {expected : String} {accepts : α → Bool} {a : α}
    (h : readSatisfying expected accepts c = .success a rest) : Cursor.Reaches c rest := by
  unfold readSatisfying at h
  split at h
  · simp at h
  · split at h
    · simp only [Outcome.success.injEq] at h
      rw [← h.2]
      exact Cursor.reaches_next c
    · simp at h

theorem reaches_of_readLiteral {xs ys : List α} (h : readLiteral xs c = .success ys rest) :
    Cursor.Reaches c rest := by
  induction xs generalizing c ys rest with
  | nil =>
    simp only [readLiteral, Outcome.success.injEq] at h
    rw [← h.2]
    exact Cursor.Reaches.refl c
  | cons x xs ih =>
    rw [readLiteral] at h
    cases hx : readExactly x c with
    | failure e => simp [hx, Outcome.flatMap] at h
    | success a d =>
      cases hxs : readLiteral xs d with
      | failure e => simp [hx, hxs, Outcome.flatMap, Outcome.map] at h
      | success zs d' =>
        simp only [hx, hxs, Outcome.flatMap, Outcome.map, Outcome.success.injEq] at h
        have hd : Cursor.Reaches c d := reaches_of_readSatisfying hx
        exact h.2 ▸ hd.trans (ih hxs)

theorem reaches_of_read {l : Leaf α β} {v : β} (hl : l.goesBack = false)
    (h : l.read c = .success v rest) : Cursor.Reaches c rest := by
  cases l with
  | any => exact reaches_of_readSatisfying h
  | satisfying expected accepts => exact reaches_of_readSatisfying h
  | exactly x => exact reaches_of_readSatisfying h
  | literal xs => exact reaches_of_readLiteral h
  | peek =>
    simp only [read, readPeek] at h
    split at h
    · simp at h
    · simp only [Outcome.success.injEq] at h
      rw [← h.2]
      exact Cursor.Reaches.refl c
  | finish =>
    simp only [read, readFinish] at h
    split at h
    · simp only [Outcome.success.injEq] at h
      rw [← h.2]
      exact Cursor.Reaches.refl c
    · simp at h
  | step =>
    simp only [read, Outcome.success.injEq] at h
    rw [← h.2]
    exact Cursor.reaches_next c
  | restart => simp [goesBack] at hl
  | ended | position | location =>
    simp only [read, Outcome.success.injEq] at h
    rw [← h.2]
    exact Cursor.Reaches.refl c

end Leaf

namespace Stretch
variable {β : Type} {c rest : TextCursor}

/-- A text that is found starts the remaining text, and so its bytes end on a boundary. -/
theorem reaches_of_readTag {s cs : List Char} (hc : c.OnBoundary)
    (h : readTag s c = .success cs rest) : Cursor.Reaches c rest := by
  unfold readTag at h
  split at h
  · next hs =>
    simp only [Outcome.success.injEq] at h
    obtain ⟨ys, hys⟩ := List.isPrefixOf_iff_prefix.mp hs
    rw [← h.2]
    exact hc.reaches_skipBytes hys.symm
  · split at h <;> simp at h

/-- A match ends between two characters of the remaining text, whatever the program of the
pattern is. -/
theorem reaches_of_readPattern {p : AnchoredPattern} {cs : List Char} (hc : c.OnBoundary)
    (h : readPattern p c = .success cs rest) : Cursor.Reaches c rest := by
  unfold readPattern at h
  split at h
  · next m hm =>
    simp only [Outcome.success.injEq] at h
    rw [← h.2]
    exact hc.reaches_skipBytes (List.take_append_drop _ _).symm
  · split at h <;> simp at h

theorem reaches_of_read {s : Stretch β} {v : β} (hc : c.OnBoundary)
    (h : s.read c = .success v rest) : Cursor.Reaches c rest := by
  cases s with
  | tag s => exact reaches_of_readTag hc h
  | pattern p => exact reaches_of_readPattern hc h

/-- A text that is not empty takes bytes. -/
theorem offset_lt_of_readTag {ch : Char} {s cs : List Char} (hc : c.OnBoundary)
    (h : readTag (ch :: s) c = .success cs rest) : c.offset < rest.offset := by
  unfold readTag at h
  split at h
  · next hs =>
    simp only [Outcome.success.injEq] at h
    obtain ⟨ys, hys⟩ := List.isPrefixOf_iff_prefix.mp hs
    obtain ⟨before, he, ho⟩ := hc
    have hpos : 0 < ch.utf8Size := ch.utf8Size_pos
    rw [← h.2]
    simp only [TextCursor.skipBytes, he, ← hys, Utf8.byteSize_append, Utf8.byteSize_cons]
    omega
  · split at h <;> simp at h

end Stretch

/-- Whether the leaf goes back to the start of the text. -/
def TextLeaf.goesBack {β : Type} : TextLeaf β → Bool
  | .inl l => l.goesBack
  | .inr _ => false

theorem TextLeaf.reaches_of_read {β : Type} {l : TextLeaf β} {c rest : TextCursor} {v : β}
    (hc : c.OnBoundary) (hl : goesBack l = false) (h : TextLeaf.read l c = .success v rest) :
    Cursor.Reaches c rest := by
  cases l with
  | inl l => exact Leaf.reaches_of_read hl h
  | inr s => exact Stretch.reaches_of_read hc h

/-- At the cursors of a set, the leaf leaves off where steps lead. -/
def Onward {L : Type → Type} {κ α : Type} [Cursor κ α]
    (read : {β : Type} → L β → κ → Outcome κ ParseError β) (good : κ → Prop) {β : Type}
    (l : L β) : Prop :=
  ∀ c v rest, good c → read l c = .success v rest → Cursor.Reaches c rest

/-- The leaves `L` and functions on cursors that a program brings itself. -/
inductive OpenLeaf (L : Type → Type) (κ β : Type) where
  | ready (l : L β)
  | custom (f : κ → Outcome κ ParseError β)

namespace OpenLeaf
variable {L : Type → Type} {κ α : Type} [Cursor κ α]

/-- What a leaf does at a cursor, if `read` says so for the leaves `L`. -/
def read (read : {β : Type} → L β → κ → Outcome κ ParseError β) {β : Type} :
    OpenLeaf L κ β → κ → Outcome κ ParseError β
  | ready l, c => read l c
  | custom f, c => f c

/-- The leaf does not go back. A program promises it of its own leaves: those return the cursor
that they are given or one that steps lead to from there. -/
def Advances (goesBack : {β : Type} → L β → Bool) {β : Type} : OpenLeaf L κ β → Prop
  | ready l => goesBack l = false
  | custom f => ∀ c v rest, f c = .success v rest → Cursor.Reaches c rest

theorem Advances.onward_text {good : TextCursor → Prop} (hgood : ∀ c, good c → c.OnBoundary)
    {β : Type} {l : OpenLeaf TextLeaf TextCursor β} (hl : l.Advances TextLeaf.goesBack) :
    Onward (OpenLeaf.read TextLeaf.read) good l := by
  intro c v rest hc h
  cases l with
  | ready l => exact TextLeaf.reaches_of_read (hgood c hc) hl h
  | custom f => exact hl c v rest h

theorem Advances.onward_element {α : Type} [BEq α] [Atom α] (good : ElementCursor α → Prop)
    {β : Type} {l : OpenLeaf (Leaf α) (ElementCursor α) β} (hl : l.Advances Leaf.goesBack) :
    Onward (OpenLeaf.read Leaf.read) good l := by
  intro c v rest _ h
  cases l with
  | ready l => exact Leaf.reaches_of_read hl h
  | custom f => exact hl c v rest h

end OpenLeaf
end Descent
