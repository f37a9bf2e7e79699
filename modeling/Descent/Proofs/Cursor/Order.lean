import Descent.Proofs.Cursor.InStep

/-!
# Later places

A walk that moves at all comes to a later position. The places of one source that a walk goes
through are therefore in order, and a loop whose rounds leave off where walks lead makes no more
rounds than there are atoms.
-/
namespace Descent

namespace Cursor
variable {κ α : Type} [Cursor κ α] {good good' : κ → Prop} {c d : κ}

/-- Walking leads from `c` to `d`, and `d` stands at a later position. -/
def Precedes (c d : κ) : Prop :=
  Reaches c d ∧ position c < position d

theorem Trackable.restrict (w : Trackable good) (hgood : ∀ c, good' c → good c)
    (hnext : ∀ c, good' c → good' (next c)) : Trackable good' where
  next_mem := hnext
  remaining_next c hc := w.remaining_next c (hgood c hc)
  next_eq_self c hc := w.next_eq_self c (hgood c hc)
  value?_eq c hc := w.value?_eq c (hgood c hc)
  source_next := w.source_next
  beq_iff c d hc hd := w.beq_iff c d (hgood c hc) (hgood d hd)

/-- A set of cursors to walk in where every atom that is taken moves the position. -/
structure Ordered (good : κ → Prop) : Prop extends Trackable good where
  position_lt_next : ∀ c, good c → remaining c ≠ [] → position c < position (next c)

namespace Ordered

theorem restrict (w : Ordered good) (hgood : ∀ c, good' c → good c)
    (hnext : ∀ c, good' c → good' (next c)) : Ordered good' where
  toTrackable := w.toTrackable.restrict hgood hnext
  position_lt_next c hc := w.position_lt_next c (hgood c hc)

/-- A walk stays where it is or comes to a later place. -/
theorem eq_or_precedes (w : Ordered good) (hc : good c) (h : Reaches c d) :
    d = c ∨ Precedes c d := by
  obtain ⟨n, rfl⟩ := h
  induction n with
  | zero => exact Or.inl rfl
  | succ n ih =>
    rw [Function.iterate_succ_apply']
    have hd : good (next^[n] c) := Reaches.preserves ⟨n, rfl⟩ w.next_mem hc
    by_cases hr : remaining (next^[n] c) = []
    · rwa [w.next_eq_self _ hd hr]
    · right
      have hlt := w.position_lt_next _ hd hr
      rcases ih with he | ⟨hreach, hle⟩
      · rw [he] at hlt ⊢
        exact ⟨reaches_next c, hlt⟩
      · exact ⟨hreach.trans (reaches_next _), Nat.lt_trans hle hlt⟩

theorem position_le (w : Ordered good) (hc : good c) (h : Reaches c d) :
    position c ≤ position d := by
  rcases w.eq_or_precedes hc h with rfl | hlater
  · exact Nat.le_refl _
  · exact Nat.le_of_lt hlater.2

theorem not_beq (w : Ordered good) (hc : good c) (h : Precedes c d) : ¬ (d == c) = true := by
  intro hbeq
  obtain rfl := (w.beq_iff_eq hc h.1 (Reaches.refl c)).mp hbeq
  exact Nat.lt_irrefl _ h.2

theorem beq_self (w : Ordered good) (hc : good c) : (c == c) = true :=
  (w.beq_iff_eq hc (Reaches.refl c) (Reaches.refl c)).mpr rfl

theorem length_lt (w : Ordered good) (hc : good c) (h : Precedes c d) :
    (remaining d).length < (remaining c).length := by
  rcases w.eq_or_length_lt hc h.1 with rfl | hlt
  · exact absurd h.2 (Nat.lt_irrefl _)
  · exact hlt

/-- Induction from the later places to the earlier ones. -/
theorem induction (w : Ordered good) {motive : κ → Prop}
    (step : ∀ c, good c → (∀ d, Precedes c d → motive d) → motive c) (hc : good c) :
    motive c := by
  induction hlen : (remaining c).length using Nat.strongRecOn generalizing c with
  | ind len ih =>
    refine step c hc fun d hd => ?_
    exact ih _ (hlen ▸ w.length_lt hc hd) (hd.1.preserves w.next_mem hc) rfl

end Ordered
end Cursor

theorem TextCursor.ordered : Cursor.Ordered OnBoundary where
  toTrackable := trackable
  position_lt_next c hc hr := by
    change c.offset < c.next.offset
    rw [hc.offset_next]
    cases hc : c.remaining with
    | nil => exact absurd hc hr
    | cons ch cs =>
      have hpos : 0 < ch.utf8Size := ch.utf8Size_pos
      simpa using hpos

theorem ElementCursor.ordered {α : Type} [BEq α] [Atom α] :
    Cursor.Ordered (Sound (α := α)) where
  toTrackable := trackable
  position_lt_next c hc hr := by
    change c.position < c.next.position
    have hlength : 0 < c.remaining.length := List.length_pos_iff.mpr hr
    rw [position_next hc.1, List.length_take]
    omega

end Descent
