import Descent.Proofs.Cursor.Order

/-!
# Passing over atoms

A walk passes over the atoms it takes. Which atoms these are tells where the walk ends, so that a
place can be named by what was passed on the way to it: of what remains at a cursor, every leading
part can be passed over, and in only one way.
-/
namespace Descent

namespace Cursor
variable {κ α : Type} [Cursor κ α] {good : κ → Prop} {c d e : κ} {x : α} {xs ys : List α}

/-- The walk over the atoms `xs`, which come first at `c`, ends at `d`. -/
structure Passes (c : κ) (xs : List α) (d : κ) : Prop where
  iterate_eq : next^[xs.length] c = d
  remaining_eq : remaining c = xs ++ remaining d

namespace Passes

theorem nil (c : κ) : Passes c [] c := ⟨rfl, rfl⟩

theorem append (h : Passes c xs d) (h' : Passes d ys e) : Passes c (xs ++ ys) e := by
  refine ⟨?_, ?_⟩
  · rw [List.length_append, Nat.add_comm, Function.iterate_add_apply, h.iterate_eq, h'.iterate_eq]
  · rw [h.remaining_eq, h'.remaining_eq, List.append_assoc]

theorem reaches (h : Passes c xs d) : Reaches c d := ⟨xs.length, h.iterate_eq⟩

theorem isPrefix (h : Passes c xs d) : xs <+: remaining c := ⟨_, h.remaining_eq.symm⟩

end Passes

theorem passes_nil_iff : Passes c [] d ↔ d = c := by
  constructor
  · exact fun h => h.iterate_eq.symm
  · rintro rfl
    exact Passes.nil d

section
variable (w : Walkable good) (hc : good c)
include w hc

omit w in
theorem Passes.preserves (w : Walkable good) (h : Passes c xs d) : good d :=
  h.reaches.preserves w.next_mem hc

/-- Whatever comes first of the remaining atoms can be passed over. -/
theorem Walkable.exists_passes (hr : remaining c = xs ++ ys) :
    ∃ d, Passes c xs d ∧ remaining d = ys := by
  have hd : remaining (next^[xs.length] c) = ys := by
    rw [w.remaining_iterate hc, hr, List.drop_left]
  exact ⟨_, ⟨rfl, by rw [hr, hd]⟩, hd⟩

theorem Walkable.exists_passes_of_isPrefix (h : xs <+: remaining c) : ∃ d, Passes c xs d := by
  obtain ⟨ys, hys⟩ := h
  obtain ⟨d, hd, -⟩ := w.exists_passes hc hys.symm
  exact ⟨d, hd⟩

theorem Walkable.passes_append_iff :
    Passes c (xs ++ ys) e ↔ ∃ d, Passes c xs d ∧ Passes d ys e := by
  constructor
  · intro h
    have hr := h.remaining_eq
    rw [List.append_assoc] at hr
    obtain ⟨d, hd, hrd⟩ := w.exists_passes hc hr
    have hwalk := h.iterate_eq
    rw [List.length_append, Nat.add_comm, Function.iterate_add_apply, hd.iterate_eq] at hwalk
    exact ⟨d, hd, hwalk, hrd⟩
  · rintro ⟨d, hd, he⟩
    exact hd.append he

theorem Walkable.passes_cons_iff :
    Passes c (x :: xs) e ↔ ∃ d, Passes c [x] d ∧ Passes d xs e := by
  rw [← List.singleton_append, w.passes_append_iff hc]

/-- A single atom is passed by a step. -/
theorem Walkable.passes_singleton_iff :
    Passes c [x] d ↔ (remaining c).head? = some x ∧ next c = d := by
  constructor
  · intro h
    exact ⟨by rw [h.remaining_eq]; rfl, h.iterate_eq⟩
  · rintro ⟨hx, rfl⟩
    obtain ⟨ys, hys⟩ := List.head?_eq_some_iff.mp hx
    refine ⟨rfl, ?_⟩
    rw [w.remaining_next c hc, hys]
    rfl

end

/-- The places after `c` are a set to walk in, too. -/
theorem Ordered.later (w : Ordered good) (c : κ) : Ordered fun d => good d ∧ Precedes c d :=
  w.restrict (fun _ h => h.1) fun d ⟨hd, hreach, hlt⟩ =>
    ⟨w.next_mem d hd, hreach.trans (reaches_next d),
      Nat.lt_of_lt_of_le hlt (w.position_le hd (reaches_next d))⟩

theorem Ordered.precedes (w : Ordered good) (hc : good c) (h : Passes c xs d) (hxs : xs ≠ []) :
    Precedes c d := by
  rcases w.eq_or_precedes hc h.reaches with rfl | hlater
  · exact absurd (List.self_eq_append_left.mp h.remaining_eq) hxs
  · exact hlater

end Cursor

theorem TextCursor.OnBoundary.passes_iff {c d : TextCursor} (hc : c.OnBoundary) {xs : List Char} :
    Cursor.Passes c xs d ↔ xs <+: c.remaining ∧ c.skipBytes (Utf8.byteSize xs) = d := by
  constructor
  · intro h
    obtain ⟨ys, hys⟩ := h.isPrefix
    exact ⟨h.isPrefix, (hc.iterate_next_length hys.symm).symm.trans h.iterate_eq⟩
  · rintro ⟨⟨ys, hys⟩, rfl⟩
    refine ⟨hc.iterate_next_length hys.symm, ?_⟩
    change c.remaining = xs ++ (c.skipBytes (Utf8.byteSize xs)).remaining
    rw [(hc.skipBytes hys.symm).2, hys]

end Descent
