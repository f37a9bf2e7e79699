import Mathlib.Data.List.DropRight
import Descent.Proofs.Cursor.Walk

/-!
# Lines

The line of a position is one more than the number of newlines that start before it, and its offset
is the size of what stands between the last of them and the position, both counted from the start of
the source and wherever the cursor at that position came from. Text and sequences number their atoms
differently and count the same newlines.
-/
namespace Descent

namespace Location
variable {α : Type} {isNewline : α → Bool}

theorem position_scanFrom (position line lineStart : Nat) (xs : List (Nat × α)) :
    (scanFrom isNewline position line lineStart xs).position = position := by
  induction xs generalizing line lineStart with
  | nil => rfl
  | cons x xs ih =>
    obtain ⟨i, a⟩ := x
    rw [scanFrom]
    split
    · rfl
    · split
      · exact ih _ _
      · exact ih _ _

theorem line_scanFrom (position line lineStart : Nat) (xs : List (Nat × α)) :
    (scanFrom isNewline position line lineStart xs).line =
      line + (xs.takeWhile (·.1 < position)).countP (isNewline ·.2) := by
  induction xs generalizing line lineStart with
  | nil => rfl
  | cons x xs ih =>
    obtain ⟨i, a⟩ := x
    rw [scanFrom]
    by_cases hi : position ≤ i
    · have hlt : ¬ i < position := Nat.not_lt_of_le hi
      rw [if_pos hi, List.takeWhile_cons_of_neg (by simpa using hlt)]
      rfl
    · have hlt : i < position := Nat.lt_of_not_le hi
      rw [if_neg hi, List.takeWhile_cons_of_pos (by simpa using hlt)]
      by_cases ha : isNewline a
      · rw [if_pos ha, ih, List.countP_cons, if_pos ha]
        omega
      · rw [if_neg ha, ih, List.countP_cons, if_neg ha, Nat.add_zero]

/-- The place after the last newline among the elements, `lineStart` if there is none. -/
def lastLineStart (isNewline : α → Bool) (lineStart : Nat) (xs : List (Nat × α)) : Nat :=
  xs.foldl (fun lineStart x => if isNewline x.2 then x.1 + 1 else lineStart) lineStart

theorem offset_scanFrom (position line lineStart : Nat) (xs : List (Nat × α)) :
    (scanFrom isNewline position line lineStart xs).offset =
      position - lastLineStart isNewline lineStart (xs.takeWhile (·.1 < position)) := by
  induction xs generalizing line lineStart with
  | nil => rfl
  | cons x xs ih =>
    obtain ⟨i, a⟩ := x
    rw [scanFrom]
    by_cases hi : position ≤ i
    · have hlt : ¬ i < position := Nat.not_lt_of_le hi
      rw [if_pos hi, List.takeWhile_cons_of_neg (by simpa using hlt)]
      rfl
    · have hlt : i < position := Nat.lt_of_not_le hi
      rw [if_neg hi, List.takeWhile_cons_of_pos (by simpa using hlt)]
      by_cases ha : isNewline a
      · rw [if_pos ha, ih, lastLineStart, lastLineStart, List.foldl_cons, if_pos ha]
      · rw [if_neg ha, ih, lastLineStart, lastLineStart, List.foldl_cons, if_neg ha]

/-- What stands behind the last newline. -/
def currentLine (isNewline : α → Bool) (xs : List α) : List α :=
  xs.rtakeWhile fun a => !isNewline a

/-- The current line takes up what lies behind its start, in whatever units the elements are
numbered, if a newline takes one of them. -/
theorem lastLineStart_add_size (number : List α → List (Nat × α)) (size : List α → Nat)
    (hnil : number [] = [])
    (hnumber : ∀ xs a, number (xs ++ [a]) = number xs ++ [(size xs, a)])
    (hsize : ∀ xs ys, size (xs ++ ys) = size xs + size ys)
    (hnewline : ∀ a, isNewline a = true → size [a] = 1) (xs : List α) :
    lastLineStart isNewline 0 (number xs) + size (currentLine isNewline xs) = size xs := by
  induction xs using List.reverseRecOn with
  | nil =>
    rw [hnil]
    exact Nat.zero_add _
  | append_singleton xs a ih =>
    rw [hnumber, lastLineStart, List.foldl_append, List.foldl_cons, List.foldl_nil, hsize]
    by_cases ha : isNewline a = true
    · have hline : currentLine isNewline (xs ++ [a]) = [] :=
        List.rtakeWhile_concat_neg _ _ _ (by simp [ha])
      have hzero : size [] = 0 := Nat.left_eq_add.mp (hsize [] [])
      rw [if_pos ha, hline, hzero, hnewline a ha]
    · have hline : currentLine isNewline (xs ++ [a]) = currentLine isNewline xs ++ [a] :=
        List.rtakeWhile_concat_pos _ _ _ (by simp [ha])
      rw [if_neg ha, hline, hsize, ← Nat.add_assoc]
      exact congrArg (· + size [a]) ih

end Location

namespace Utf8

theorem map_snd_indexed (start : Nat) (cs : List Char) : (indexed start cs).map Prod.snd = cs := by
  induction cs generalizing start with
  | nil => rfl
  | cons c cs ih => rw [indexed, List.map_cons, ih]

theorem countP_indexed (accepts : Char → Bool) (start : Nat) (cs : List Char) :
    (indexed start cs).countP (accepts ·.2) = cs.countP accepts := by
  have h := congrArg (List.countP accepts) (map_snd_indexed start cs)
  rwa [List.countP_map] at h

/-- The characters that start before the end of a leading part are those of the part. -/
theorem takeWhile_indexed_append (start : Nat) (cs ds : List Char) :
    (indexed start (cs ++ ds)).takeWhile (·.1 < start + byteSize cs) = indexed start cs := by
  induction cs generalizing start with
  | nil =>
    cases ds with
    | nil => rfl
    | cons d ds => exact List.takeWhile_cons_of_neg (by simp)
  | cons c cs ih =>
    have hpos : 0 < c.utf8Size := c.utf8Size_pos
    have hstart : start < start + byteSize (c :: cs) := by
      rw [byteSize_cons]
      omega
    rw [List.cons_append, indexed, indexed, List.takeWhile_cons_of_pos (by simpa using hstart),
      byteSize_cons, ← Nat.add_assoc, ih]

theorem indexed_append_singleton (start : Nat) (cs : List Char) (c : Char) :
    indexed start (cs ++ [c]) = indexed start cs ++ [(start + byteSize cs, c)] := by
  induction cs generalizing start with
  | nil => rfl
  | cons d cs ih =>
    rw [List.cons_append, indexed, ih, indexed, byteSize_cons, Nat.add_assoc, List.cons_append]

end Utf8

theorem TextCursor.position_location (c : TextCursor) :
    (Cursor.location c).position = c.offset :=
  Location.position_scanFrom _ _ _ _

theorem TextCursor.line_location {c : TextCursor} {before after : List Char}
    (he : c.source.elements = before ++ after) (ho : Utf8.byteSize before = c.offset) :
    (Cursor.location c).line = 1 + before.countP Atom.isNewline := by
  change (Location.scanFrom _ _ 1 0 (Utf8.indexed 0 c.source.elements)).line = _
  have hbefore := Utf8.takeWhile_indexed_append 0 before after
  rw [Nat.zero_add, ← he, ho] at hbefore
  rw [Location.line_scanFrom, hbefore, Utf8.countP_indexed]

theorem TextCursor.offset_location {c : TextCursor} {before after : List Char}
    (he : c.source.elements = before ++ after) (ho : Utf8.byteSize before = c.offset) :
    (Cursor.location c).offset =
      Utf8.byteSize (Location.currentLine Atom.isNewline before) := by
  change (Location.scanFrom _ _ 1 0 (Utf8.indexed 0 c.source.elements)).offset = _
  have hbefore := Utf8.takeWhile_indexed_append 0 before after
  rw [Nat.zero_add, ← he, ho] at hbefore
  have hnewline : ∀ a : Char, Atom.isNewline a = true → Utf8.byteSize [a] = 1 := by
    intro a ha
    obtain rfl := beq_iff_eq.mp ha
    rfl
  have hnumber : ∀ (xs : List Char) (a : Char),
      Utf8.indexed 0 (xs ++ [a]) = Utf8.indexed 0 xs ++ [(Utf8.byteSize xs, a)] := by
    intro xs a
    rw [Utf8.indexed_append_singleton, Nat.zero_add]
  have hline := Location.lastLineStart_add_size (Utf8.indexed 0) Utf8.byteSize rfl hnumber
    Utf8.byteSize_append hnewline before
  rw [Location.offset_scanFrom, hbefore, ← ho]
  omega

namespace ElementCursor
variable {α : Type} [BEq α] [Atom α]

theorem position_location (c : ElementCursor α) : (Cursor.location c).position = c.position :=
  Location.position_scanFrom _ _ _ _

omit [BEq α] [Atom α] in
theorem takeWhile_zipIdx (xs : List α) (start n : Nat) :
    ((xs.zipIdx start).map fun (a, i) => (i, a)).takeWhile (·.1 < start + n) =
      ((xs.take n).zipIdx start).map fun (a, i) => (i, a) := by
  induction xs generalizing start n with
  | nil => simp
  | cons x xs ih =>
    cases n with
    | zero => simp
    | succ n =>
      have hn : start + (n + 1) = start + 1 + n := by omega
      rw [List.zipIdx_cons, List.map_cons, List.takeWhile_cons_of_pos (by simp), hn, ih]
      rfl

theorem line_location (c : ElementCursor α) :
    (Cursor.location c).line = 1 + (c.source.elements.take c.position).countP Atom.isNewline := by
  change (Location.scanFrom _ _ 1 0 (c.source.elements.zipIdx.map _)).line = _
  have hbefore := takeWhile_zipIdx c.source.elements 0 c.position
  rw [Nat.zero_add] at hbefore
  have hcount := congrArg (List.countP Atom.isNewline)
    (List.zipIdx_map_fst 0 (c.source.elements.take c.position))
  rw [List.countP_map] at hcount
  rw [Location.line_scanFrom, hbefore, List.countP_map, ← hcount]
  rfl

theorem offset_location (c : ElementCursor α) (hc : c.InBounds) :
    (Cursor.location c).offset =
      (Location.currentLine Atom.isNewline (c.source.elements.take c.position)).length := by
  change (Location.scanFrom _ _ 1 0 (c.source.elements.zipIdx.map _)).offset = _
  have hbefore := takeWhile_zipIdx c.source.elements 0 c.position
  rw [Nat.zero_add] at hbefore
  have hnumber : ∀ (xs : List α) (a : α),
      ((xs ++ [a]).zipIdx.map fun (a, i) => (i, a)) =
        (xs.zipIdx.map fun (a, i) => (i, a)) ++ [(xs.length, a)] := by
    intro xs a
    rw [List.zipIdx_append, List.map_append, Nat.zero_add]
    rfl
  have hnewline : ∀ a : α, Atom.isNewline a = true → [a].length = 1 := fun _ _ => rfl
  have hline := Location.lastLineStart_add_size (fun xs => xs.zipIdx.map fun (a, i) => (i, a))
    List.length rfl hnumber (fun _ _ => List.length_append) hnewline
    (c.source.elements.take c.position)
  have hlength : (c.source.elements.take c.position).length = c.position :=
    List.length_take_of_le hc
  rw [Location.offset_scanFrom, hbefore]
  omega

end ElementCursor
end Descent
