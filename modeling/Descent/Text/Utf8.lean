/-!
# Positions in text

Positions in text count UTF-8 bytes. A position is a boundary when it falls between two
characters; `dropBytes?` finds the text after a boundary, and `byteSize` is the position
that the whole text ends at.
-/
namespace Descent.Utf8

/-- Bytes that a text takes in UTF-8. -/
def byteSize : List Char → Nat
  | [] => 0
  | c :: cs => c.utf8Size + byteSize cs

/-- The text after its first `n` bytes, if a character starts or the text ends there. -/
def dropBytes? : Nat → List Char → Option (List Char)
  | 0, cs => some cs
  | _ + 1, [] => none
  | n + 1, c :: cs => if c.utf8Size ≤ n + 1 then dropBytes? (n + 1 - c.utf8Size) cs else none

/-- Each character with the position it starts at, the first at `start`. -/
def indexed (start : Nat) : List Char → List (Nat × Char)
  | [] => []
  | c :: cs => (start, c) :: indexed (start + c.utf8Size) cs

@[simp] theorem byteSize_nil : byteSize [] = 0 := rfl

@[simp] theorem byteSize_cons (c : Char) (cs : List Char) :
    byteSize (c :: cs) = c.utf8Size + byteSize cs := rfl

theorem eq_nil_of_byteSize {cs : List Char} (h : byteSize cs = 0) : cs = [] := by
  cases cs with
  | nil => rfl
  | cons c cs =>
    have hc : 0 < c.utf8Size := c.utf8Size_pos
    rw [byteSize_cons] at h
    omega

theorem byteSize_append (cs ds : List Char) :
    byteSize (cs ++ ds) = byteSize cs + byteSize ds := by
  induction cs with
  | nil => simp
  | cons c cs ih => simp [ih, Nat.add_assoc]

@[simp] theorem dropBytes?_zero (cs : List Char) : dropBytes? 0 cs = some cs := by
  cases cs <;> rfl

/-- The end of a leading part is a boundary, and what follows it is what remains. -/
theorem dropBytes?_byteSize_append (cs ds : List Char) :
    dropBytes? (byteSize cs) (cs ++ ds) = some ds := by
  induction cs with
  | nil => simp
  | cons c cs ih =>
    have hpos : 0 < c.utf8Size := c.utf8Size_pos
    obtain ⟨n, hn⟩ : ∃ n, c.utf8Size + byteSize cs = n + 1 :=
      ⟨c.utf8Size + byteSize cs - 1, by omega⟩
    rw [byteSize_cons, hn, List.cons_append, dropBytes?, if_pos (by omega)]
    rw [show n + 1 - c.utf8Size = byteSize cs by omega]
    exact ih

/-- Conversely, a boundary is the end of a leading part. -/
theorem exists_append_of_dropBytes? {n : Nat} {cs ds : List Char}
    (h : dropBytes? n cs = some ds) : ∃ es, cs = es ++ ds ∧ byteSize es = n := by
  induction cs generalizing n with
  | nil =>
    cases n with
    | zero => exact ⟨[], by simpa [dropBytes?] using h⟩
    | succ n => simp [dropBytes?] at h
  | cons c cs ih =>
    cases n with
    | zero => exact ⟨[], by simpa [dropBytes?] using h⟩
    | succ n =>
      rw [dropBytes?] at h
      split at h
      · obtain ⟨es, rfl, hes⟩ := ih h
        exact ⟨c :: es, rfl, by simp [hes]; omega⟩
      · simp at h

end Descent.Utf8
