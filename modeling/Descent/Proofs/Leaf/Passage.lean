import Descent.Proofs.Cursor.Passage
import Descent.Leaf

/-!
# What leaves pass over

A leaf that consumes succeeds with what comes first at its cursor, if that is what it asks for, and
leaves off behind it.
-/
namespace Descent

namespace Outcome
variable {κ ε β γ : Type} {o : Outcome κ ε β} {c : κ}

theorem flatMap_eq_success_iff {f : β → κ → Outcome κ ε γ} {u : γ} :
    o.flatMap f = .success u c ↔ ∃ v d, o = .success v d ∧ f v d = .success u c := by
  cases o with
  | success v d =>
    constructor
    · exact fun h => ⟨v, d, rfl, h⟩
    · rintro ⟨_, _, ho, h⟩
      obtain ⟨rfl, rfl⟩ := success.inj ho
      exact h
  | failure e => simp [flatMap]

theorem map_eq_success_iff {f : β → κ → γ} {u : γ} :
    o.map f = .success u c ↔ ∃ v, o = .success v c ∧ f v c = u := by
  cases o with
  | success v d =>
    constructor
    · intro h
      obtain ⟨hu, rfl⟩ := success.inj h
      exact ⟨v, rfl, hu⟩
    · rintro ⟨_, ho, rfl⟩
      obtain ⟨rfl, rfl⟩ := success.inj ho
      rfl
  | failure e => simp [map]

end Outcome

namespace Leaf
variable {κ α : Type} [Cursor κ α] [BEq α] [Atom α] {good : κ → Prop} {c d : κ} {a : α}
  (w : Cursor.Trackable good) (hc : good c)
include w hc

theorem readSatisfying_eq_success_iff {expected : String} {accepts : α → Bool} :
    readSatisfying expected accepts c = .success a d ↔
      accepts a = true ∧ Cursor.Passes c [a] d := by
  rw [w.passes_singleton_iff hc, ← w.value?_eq c hc]
  unfold readSatisfying
  split
  · next hnone => simp [hnone]
  · next x hx =>
    rw [hx, Option.some.injEq]
    split
    · next hyes =>
      rw [Outcome.success.injEq]
      constructor
      · rintro ⟨rfl, rfl⟩
        exact ⟨hyes, rfl, rfl⟩
      · exact fun h => h.2
    · next hno =>
      simp only [reduceCtorEq, false_iff, not_and]
      rintro hyes rfl
      exact absurd hyes hno

theorem readAny_eq_success_iff : readAny c = .success a d ↔ Cursor.Passes c [a] d := by
  rw [readAny, readSatisfying_eq_success_iff w hc]
  exact and_iff_right rfl

theorem readExactly_eq_success_iff [LawfulBEq α] {x : α} :
    readExactly x c = .success a d ↔ a = x ∧ Cursor.Passes c [a] d := by
  rw [readExactly, readSatisfying_eq_success_iff w hc, beq_iff_eq]

theorem readLiteral_eq_success_iff [LawfulBEq α] {xs ys : List α} :
    readLiteral xs c = .success ys d ↔ ys = xs ∧ Cursor.Passes c ys d := by
  induction xs generalizing c d ys with
  | nil =>
    rw [readLiteral, Outcome.success.injEq]
    constructor
    · rintro ⟨rfl, rfl⟩
      exact ⟨rfl, .nil c⟩
    · rintro ⟨rfl, h⟩
      exact ⟨rfl, (Cursor.passes_nil_iff.mp h).symm⟩
  | cons x xs ih =>
    simp only [readLiteral, Outcome.flatMap_eq_success_iff, Outcome.map_eq_success_iff,
      readExactly_eq_success_iff w hc]
    constructor
    · rintro ⟨a, e, ⟨rfl, he⟩, zs, hzs, rfl⟩
      obtain ⟨rfl, hd⟩ := (ih (he.reaches.preserves w.next_mem hc)).mp hzs
      exact ⟨rfl, he.append hd⟩
    · rintro ⟨rfl, h⟩
      obtain ⟨e, he, hd⟩ := (w.passes_cons_iff hc).mp h
      have hzs := (ih (he.reaches.preserves w.next_mem hc)).mpr ⟨rfl, hd⟩
      exact ⟨x, e, ⟨rfl, he⟩, xs, hzs, rfl⟩

end Leaf

theorem Stretch.readTag_eq_success_iff {s v : List Char} {c d : TextCursor} (hc : c.OnBoundary) :
    readTag s c = .success v d ↔ v = s ∧ Cursor.Passes c v d := by
  unfold readTag
  split
  · next hs =>
    rw [Outcome.success.injEq]
    constructor
    · rintro ⟨rfl, rfl⟩
      exact ⟨rfl, hc.passes_iff.mpr ⟨List.isPrefixOf_iff_prefix.mp hs, rfl⟩⟩
    · rintro ⟨rfl, h⟩
      exact ⟨rfl, (hc.passes_iff.mp h).2⟩
  · next hs =>
    have hfails : ¬ (v = s ∧ Cursor.Passes c v d) := by
      rintro ⟨rfl, h⟩
      exact hs (List.isPrefixOf_iff_prefix.mpr h.isPrefix)
    split <;> simpa only [reduceCtorEq, false_iff] using hfails

end Descent
