import Descent.Proofs.Cursor.InStep

/-!
# Faithful walks

Walking from the start of a source reads its atoms one by one and in order. Wherever the walk has
come to, what it has read and what remains make up the source, and the position measures what it has
read: in bytes of text, or in atoms of a sequence. The text that remains can always be sliced off,
and a cursor over a sequence has the form of its end exactly when nothing remains.
-/
namespace Descent

namespace Cursor
variable {κ α : Type} [Cursor κ α] {good : κ → Prop} {c : κ}

/-- The atoms that are read on `n` steps from `c`. -/
def visited : Nat → κ → List α
  | 0, _ => []
  | n + 1, c => (value? c).toList ++ visited n (next c)

/-- The cursor shows the place in `s` behind the atoms `consumed`, and positions count by `size`. -/
structure Shows (size : List α → Nat) (s : Source α) (consumed : List α) (c : κ) : Prop where
  source_eq : source c = s
  value?_eq : value? c = (remaining c).head?
  /-- A step takes the atom that is read, and nothing else. -/
  remaining_eq : remaining c = (value? c).toList ++ remaining (next c)
  next_eq_self : value? c = none → next c = c
  consumed_append : consumed ++ remaining c = s.elements
  position_eq : position c = size consumed

section
variable (w : Walkable good) (hvalue : ∀ c, good c → value? c = (remaining c).head?)
include w hvalue

theorem Walkable.visited_append (hc : good c) :
    remaining c = (value? c).toList ++ remaining (next c) := by
  rw [hvalue c hc, w.remaining_next c hc]
  cases remaining c with
  | nil => rfl
  | cons a as => rfl

/-- The atoms are read in order, each of them once. -/
theorem Walkable.visited_eq_take (hc : good c) (n : Nat) :
    visited n c = (remaining c).take n := by
  induction n generalizing c with
  | zero => rfl
  | succ n ih =>
    rw [visited, ih (w.next_mem c hc), hvalue c hc, w.remaining_next c hc]
    cases remaining c with
    | nil => rw [List.tail_nil, List.take_nil, List.take_nil, List.head?_nil, Option.toList_none,
        List.append_nil]
    | cons a as => rfl

/-- A walk from the start of a source shows its place, if positions count by `size`. -/
theorem Walkable.shows {size : List α → Nat} {s : Source α} {n : Nat} (hc : good c)
    (hremaining : remaining c = s.elements) (hsource : source (next^[n] c) = s)
    (hposition : position (next^[n] c) = size (s.elements.take n)) :
    Shows size s (visited n c) (next^[n] c) := by
  have hn : good (next^[n] c) := Reaches.preserves ⟨n, rfl⟩ w.next_mem hc
  have hvisited : visited n c = s.elements.take n := by
    rw [w.visited_eq_take hvalue hc, hremaining]
  refine ⟨hsource, hvalue _ hn, w.visited_append hvalue hn, fun hnone => ?_, ?_, ?_⟩
  · rw [hvalue _ hn] at hnone
    exact w.next_eq_self _ hn (List.head?_eq_none_iff.mp hnone)
  · rw [hvisited, w.remaining_iterate hc, hremaining, List.take_append_drop]
  · rw [hvisited, hposition]

end
end Cursor

namespace TextCursor
variable {c d : TextCursor}

/-- Equality compares places: those of one source are equal if their positions are. -/
theorem beq_iff_offset_eq (hs : c.source = d.source) : (c == d) = true ↔ c.offset = d.offset := by
  change (c.source.elements == d.source.elements && c.offset == d.offset) = true ↔ _
  rw [hs, beq_self_eq_true, Bool.true_and, beq_iff_eq]

theorem OnBoundary.dropBytes?_eq (h : c.OnBoundary) :
    Utf8.dropBytes? c.offset c.source.elements = some c.remaining := by
  obtain ⟨before, he, ho⟩ := h
  rw [← ho, he]
  exact Utf8.dropBytes?_byteSize_append before c.remaining

section
variable (s : Source Char) (n : Nat)

theorem source_iterate_start : (Cursor.next^[n] (start s)).source = s :=
  source_eq_of_reaches ⟨n, rfl⟩

theorem onBoundary_iterate_start : (Cursor.next^[n] (start s)).OnBoundary :=
  Cursor.Reaches.preserves ⟨n, rfl⟩ walkable.next_mem (onBoundary_start s)

theorem visited_start : Cursor.visited n (start s) = s.elements.take n := by
  rw [← remaining_start s]
  exact walkable.visited_eq_take (fun _ _ => rfl) (onBoundary_start s) n

theorem shows_start :
    Cursor.Shows Utf8.byteSize s (Cursor.visited n (start s)) (Cursor.next^[n] (start s)) :=
  walkable.shows (fun _ _ => rfl) (onBoundary_start s) (remaining_start s)
    (source_iterate_start s n) (iterate_next_start s n).2

end
end TextCursor

namespace ElementCursor
variable {α : Type} {c d : ElementCursor α}

theorem Canonical.exists_within_iff (h : c.Canonical) :
    (∃ i, c = within c.source i) ↔ c.remaining ≠ [] := by
  cases c with
  | within s i =>
    have hi : i < s.elements.length := h
    have hremaining : (within s i).remaining ≠ [] := by
      change s.elements.drop i ≠ []
      rwa [ne_eq, List.drop_eq_nil_iff, Nat.not_le]
    exact iff_of_true ⟨i, rfl⟩ hremaining
  | finished s =>
    refine iff_of_false ?_ fun hremaining => hremaining List.drop_length
    rintro ⟨i, hi⟩
    cases hi

variable [BEq α] [Atom α]

/-- Equality compares contents as well: cursors of one source are equal if their positions are and
every atom of the source equals itself. -/
theorem Canonical.beq_iff (hc : c.Canonical) (hd : d.Canonical) (hs : c.source = d.source) :
    (c == d) = true ↔ (∀ a ∈ c.source.elements, (a == a) = true) ∧ c.position = d.position := by
  constructor
  · intro h
    refine ⟨forall_mem_of_beq_self ?_, position_eq_of_same hc hd hs.symm h⟩
    cases c with
    | within s i =>
      cases d with
      | within t j =>
        obtain rfl : s = t := hs
        exact (Bool.and_eq_true_iff.mp h).1
      | finished t => exact absurd h Bool.false_ne_true
    | finished s =>
      cases d with
      | within t j => exact absurd h Bool.false_ne_true
      | finished t =>
        obtain rfl : s = t := hs
        exact h
  · rintro ⟨hself, hposition⟩
    have hcd : c = d := by
      rw [hc.eq_place, hd.eq_place, hs, hposition]
    exact hcd ▸ beq_self hself

section
variable (s : Source α) (n : Nat)

theorem source_iterate_start : (Cursor.next^[n] (start s)).source = s :=
  (source_eq_of_reaches ⟨n, rfl⟩).trans (source_start s)

theorem canonical_iterate_start : (Cursor.next^[n] (start s)).Canonical :=
  Cursor.Reaches.preserves ⟨n, rfl⟩ walkable.next_mem (canonical_start s)

theorem visited_start : Cursor.visited n (start s) = s.elements.take n := by
  rw [← remaining_start s]
  exact walkable.visited_eq_take (fun _ => value?_eq_head?) (canonical_start s) n

theorem shows_start :
    Cursor.Shows List.length s (Cursor.visited n (start s)) (Cursor.next^[n] (start s)) :=
  walkable.shows (fun _ => value?_eq_head?) (canonical_start s) (remaining_start s)
    (source_iterate_start s n) (iterate_next_start s n).2

end
end ElementCursor

/-- A cursor is a faithful walk over its source. However many steps it has made from the start, it
reads the first of the atoms that remain, if there are any; a step takes this atom and no other, and
at the end it stays; what has been read so far are the leading atoms in their order, which with
those that remain make up the source and are measured by the position. The rest of a text can be
sliced off at a boundary within it. A cursor over a sequence never stands past the end, and has the
form of the end exactly when nothing remains. Two walks of one source come to equal cursors exactly
if they come to the same position, provided that the atoms of the source equal themselves, as
characters do. -/
theorem cursors_walk_faithfully :
    (∀ (s : Source Char) (n : Nat),
      let start := TextCursor.start s
      let c := Cursor.next^[n] start
      Cursor.Shows Utf8.byteSize s (Cursor.visited n start) c ∧
        Cursor.visited n start = s.elements.take n ∧
        Utf8.dropBytes? c.offset s.elements = some c.remaining ∧
        ∀ m, (c == Cursor.next^[m] start) = true ↔ c.offset = (Cursor.next^[m] start).offset) ∧
    ∀ {α : Type} [BEq α] [Atom α] (s : Source α) (n : Nat),
      let start := ElementCursor.start s
      let c := Cursor.next^[n] start
      Cursor.Shows List.length s (Cursor.visited n start) c ∧
        Cursor.visited n start = s.elements.take n ∧
        c.position ≤ s.elements.length ∧
        ((∃ i, c = .within s i) ↔ c.remaining ≠ []) ∧
        ∀ m, (c == Cursor.next^[m] start) = true ↔
          (∀ a ∈ s.elements, (a == a) = true) ∧ c.position = (Cursor.next^[m] start).position := by
  constructor
  · intro s n start c
    have hsource : ∀ m, (Cursor.next^[m] start).source = s := TextCursor.source_iterate_start s
    have hslice := (TextCursor.onBoundary_iterate_start s n).dropBytes?_eq
    rw [hsource n] at hslice
    refine ⟨TextCursor.shows_start s n, TextCursor.visited_start s n, hslice, fun m => ?_⟩
    exact TextCursor.beq_iff_offset_eq ((hsource n).trans (hsource m).symm)
  · intro α _ _ s n start c
    have hsource : ∀ m, (Cursor.next^[m] start).source = s := ElementCursor.source_iterate_start s
    have hcanonical : ∀ m, (Cursor.next^[m] start).Canonical :=
      ElementCursor.canonical_iterate_start s
    have hbounds := (hcanonical n).inBounds
    have hform := (hcanonical n).exists_within_iff
    rw [ElementCursor.InBounds, hsource n] at hbounds
    simp only [hsource n] at hform
    refine ⟨ElementCursor.shows_start s n, ElementCursor.visited_start s n, hbounds, hform,
      fun m => ?_⟩
    have hequal := (hcanonical n).beq_iff (hcanonical m) ((hsource n).trans (hsource m).symm)
    rwa [hsource n] at hequal

end Descent
