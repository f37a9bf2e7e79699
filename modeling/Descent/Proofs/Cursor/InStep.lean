import Descent.Proofs.Cursor.Walk

/-!
# Walking in step

Two cursors that leave the same atoms are moved by the same number of steps. They go on leaving
the same atoms, come to the end together, and one of them is back at an earlier place exactly when
the other is. The two may be of different kinds and walk different sources.
-/
namespace Descent

namespace Cursor
variable {κ κ' α : Type} [Cursor κ α] [Cursor κ' α] {good : κ → Prop} {good' : κ' → Prop}
  {a c d : κ} {b c' d' : κ'}

theorem Walkable.remaining_iterate (w : Walkable good) (hc : good c) (n : Nat) :
    remaining (next^[n] c) = (remaining c).drop n := by
  induction n with
  | zero => rfl
  | succ n ih =>
    have hn : good (next^[n] c) := Reaches.preserves ⟨n, rfl⟩ w.next_mem hc
    rw [Function.iterate_succ_apply', w.remaining_next _ hn, ih, List.tail_drop]

/-- If positions count atoms by `size`, a walk moves the position by the size of what it takes. -/
theorem Walkable.position_iterate (w : Walkable good) {size : List α → Nat} (hnil : size [] = 0)
    (happend : ∀ xs ys, size (xs ++ ys) = size xs + size ys)
    (hnext : ∀ c, good c → position (next c) = position c + size ((remaining c).take 1))
    (hc : good c) (n : Nat) :
    position (next^[n] c) = position c + size ((remaining c).take n) := by
  induction n with
  | zero => rw [List.take_zero, hnil, Nat.add_zero, Function.iterate_zero_apply]
  | succ n ih =>
    have hn : good (next^[n] c) := Reaches.preserves ⟨n, rfl⟩ w.next_mem hc
    rw [Function.iterate_succ_apply', hnext _ hn, ih, w.remaining_iterate hc, List.take_add,
      happend, Nat.add_assoc]

/-- Of two places on one walk, one is ahead of the other. -/
theorem reaches_or_reaches (hc : Reaches a c) (hd : Reaches a d) :
    Reaches c d ∨ Reaches d c := by
  obtain ⟨m, rfl⟩ := hc
  obtain ⟨n, rfl⟩ := hd
  rcases Nat.le_total m n with h | h
  · exact Or.inl ⟨n - m, by rw [← Function.iterate_add_apply, Nat.sub_add_cancel h]⟩
  · exact Or.inr ⟨m - n, by rw [← Function.iterate_add_apply, Nat.sub_add_cancel h]⟩

/-- Places on one walk are told apart by how much they leave. -/
theorem Walkable.eq_iff_length_eq (w : Walkable good) (ha : good a) (hc : Reaches a c)
    (hd : Reaches a d) : c = d ↔ (remaining c).length = (remaining d).length := by
  constructor
  · rintro rfl
    rfl
  · intro hlen
    rcases reaches_or_reaches hc hd with h | h
    · rcases w.eq_or_length_lt (hc.preserves w.next_mem ha) h with he | hlt
      · exact he.symm
      · omega
    · rcases w.eq_or_length_lt (hd.preserves w.next_mem ha) h with he | hlt
      · exact he
      · omega

/-- A set of cursors to walk in that show the first of the atoms they leave, and whose equality
tells the places of one source apart. -/
structure Trackable (good : κ → Prop) : Prop extends Walkable good where
  value?_eq : ∀ c, good c → value? c = (remaining c).head?
  source_next : ∀ c : κ, source (next c) = source c
  beq_iff : ∀ c d, good c → good d → source c = source d → ((c == d) = true ↔ c = d)

theorem Trackable.source_eq (w : Trackable good) (h : Reaches a c) : source c = source a :=
  h.source_eq w.source_next

theorem Trackable.beq_iff_eq (w : Trackable good) (ha : good a) (hc : Reaches a c)
    (hd : Reaches a d) : (c == d) = true ↔ c = d :=
  w.beq_iff c d (hc.preserves w.next_mem ha) (hd.preserves w.next_mem ha)
    ((w.source_eq hc).trans (w.source_eq hd).symm)

/-- `c` and `c'` are as many steps after `a` and `b`. -/
def InStep (a : κ) (b : κ') (c : κ) (c' : κ') : Prop :=
  ∃ n : Nat, next^[n] a = c ∧ next^[n] b = c'

theorem InStep.refl (a : κ) (b : κ') : InStep a b a b := ⟨0, rfl, rfl⟩

theorem InStep.trans (h : InStep a b c c') (h' : InStep c c' d d') : InStep a b d d' := by
  obtain ⟨m, rfl, rfl⟩ := h
  obtain ⟨n, rfl, rfl⟩ := h'
  exact ⟨n + m, Function.iterate_add_apply next n m a, Function.iterate_add_apply next n m b⟩

theorem InStep.next (h : InStep a b c c') : InStep a b (next c) (next c') :=
  h.trans ⟨1, rfl, rfl⟩

theorem InStep.left (h : InStep a b c c') : Reaches a c :=
  let ⟨n, hn, _⟩ := h
  ⟨n, hn⟩

theorem InStep.right (h : InStep a b c c') : Reaches b c' :=
  let ⟨n, _, hn⟩ := h
  ⟨n, hn⟩

/-- What corresponding cursors share as far as leaves and repetitions can tell: the next atom, the
answer to whether a place is an earlier one, and locations related by `P`. -/
structure Similar (R : κ → κ' → Prop) (P : Location → Location → Prop) : Prop where
  value?_eq : ∀ {c c'}, R c c' → value? c = value? c'
  next : ∀ {c c'}, R c c' → R (next c) (next c')
  beq_eq : ∀ {c d c' d'}, R c c' → R d d' → (c == d) = (c' == d')
  location : ∀ {c c'}, R c c' → P (location c) (location c')

section
variable (w : Trackable good) (w' : Trackable good') (ha : good a) (hb : good' b)
  (hr : remaining a = remaining b)
include w w' ha hb hr

theorem InStep.remaining_eq (h : InStep a b c c') : remaining c = remaining c' := by
  obtain ⟨n, rfl, rfl⟩ := h
  rw [w.remaining_iterate ha, w'.remaining_iterate hb, hr]

theorem InStep.eq_iff_eq (h : InStep a b c c') (h' : InStep a b d d') : c = d ↔ c' = d' := by
  rw [w.eq_iff_length_eq ha h.left h'.left, w'.eq_iff_length_eq hb h.right h'.right,
    h.remaining_eq w w' ha hb hr, h'.remaining_eq w w' ha hb hr]

theorem similar_inStep {P : Location → Location → Prop}
    (hP : ∀ c c', InStep a b c c' → P (location c) (location c')) : Similar (InStep a b) P where
  value?_eq {c c'} h := by
    rw [w.value?_eq c (h.left.preserves w.next_mem ha),
      w'.value?_eq c' (h.right.preserves w'.next_mem hb), h.remaining_eq w w' ha hb hr]
  next h := h.next
  beq_eq h h' := by
    rw [Bool.eq_iff_iff, w.beq_iff_eq ha h.left h'.left, w'.beq_iff_eq hb h.right h'.right]
    exact h.eq_iff_eq w w' ha hb hr h'
  location h := hP _ _ h

end
end Cursor

namespace TextCursor
variable {c d : TextCursor}

/-- Equality of cursors over one text is equality of places. -/
theorem trackable : Cursor.Trackable OnBoundary where
  toWalkable := walkable
  value?_eq _ _ := rfl
  source_next := source_next
  beq_iff c d _ _ hs := by
    constructor
    · intro h
      have hoffset : c.offset = d.offset := beq_iff_eq.mp (Bool.and_eq_true_iff.mp h).2
      exact calc
        c = ⟨c.source, c.offset⟩ := rfl
        _ = ⟨d.source, d.offset⟩ := congrArg₂ mk hs hoffset
        _ = d := rfl
    · rintro rfl
      exact beq_self c

theorem OnBoundary.offset_next (h : c.OnBoundary) :
    c.next.offset = c.offset + Utf8.byteSize (c.remaining.take 1) := by
  cases hr : c.remaining with
  | nil =>
    rw [next_of_nil hr]
    rfl
  | cons ch cs =>
    obtain ⟨before, he, ho⟩ := h
    rw [next_of_cons hr]
    simp only [TextCursor.skipBytes, he, hr, Utf8.byteSize_append, Utf8.byteSize_cons, ← ho,
      List.take_succ_cons, List.take_zero, Utf8.byteSize_nil]
    omega

theorem OnBoundary.offset_iterate_next (h : c.OnBoundary) (n : Nat) :
    (Cursor.next^[n] c).offset = c.offset + Utf8.byteSize (c.remaining.take n) :=
  walkable.position_iterate Utf8.byteSize_nil Utf8.byteSize_append
    (fun _ hc => OnBoundary.offset_next hc) h n

theorem remaining_start (s : Source Char) : (start s).remaining = s.elements := by
  have h : (start s).source.elements = [] ++ s.elements := rfl
  exact remaining_eq_of_append h rfl

/-- The place after `n` characters. -/
theorem iterate_next_start (s : Source Char) (n : Nat) :
    (Cursor.next^[n] (start s)).remaining = s.elements.drop n ∧
      (Cursor.next^[n] (start s)).offset = Utf8.byteSize (s.elements.take n) := by
  have hremaining := walkable.remaining_iterate (onBoundary_start s) n
  have hoffset := (onBoundary_start s).offset_iterate_next n
  rw [remaining_start] at hoffset
  exact ⟨hremaining.trans (congrArg _ (remaining_start s)), hoffset.trans (Nat.zero_add _)⟩

end TextCursor

namespace ElementCursor
variable {α : Type} {c d : ElementCursor α}

theorem value?_eq_head? (h : c.Canonical) : c.value? = c.remaining.head? := by
  cases c with
  | within s i => simp [value?, remaining, source, position]
  | finished s => simp [value?, remaining, source, position]

theorem position_next (h : c.Canonical) :
    c.next.position = c.position + (c.remaining.take 1).length := by
  cases c with
  | within s i =>
    have hi : i < s.elements.length := h
    have hlen : ((within s i).remaining.take 1).length = 1 := by
      simp only [remaining, source, position, List.length_take, List.length_drop]
      omega
    rw [hlen, ElementCursor.next]
    split
    · exact Nat.le_antisymm ‹_› hi
    · rfl
  | finished s => simp [ElementCursor.next, remaining, source, position]

theorem position_start (s : Source α) : (start s).position = 0 := by
  unfold start
  split
  · next h => simpa [position] using h
  · rfl

theorem source_start (s : Source α) : (start s).source = s := by
  unfold start
  split
  · rfl
  · rfl

theorem remaining_start (s : Source α) : (start s).remaining = s.elements := by
  rw [remaining, position_start, source_start, List.drop_zero]

variable [BEq α] [Atom α]

theorem Canonical.position_iterate_next (h : c.Canonical) (n : Nat) :
    (Cursor.next^[n] c).position = c.position + (c.remaining.take n).length :=
  walkable.position_iterate List.length_nil (fun _ _ => List.length_append)
    (fun _ hc => position_next hc) h n

/-- The place after `n` atoms. -/
theorem iterate_next_start (s : Source α) (n : Nat) :
    (Cursor.next^[n] (start s)).remaining = s.elements.drop n ∧
      (Cursor.next^[n] (start s)).position = (s.elements.take n).length := by
  have hremaining := walkable.remaining_iterate (canonical_start s) n
  have hposition := (canonical_start s).position_iterate_next n
  rw [remaining_start, position_start] at hposition
  exact ⟨hremaining.trans (congrArg _ (remaining_start s)), hposition.trans (Nat.zero_add _)⟩

omit [Atom α] in
theorem position_eq_of_same (hc : c.Canonical) (hd : d.Canonical) (hs : d.source = c.source)
    (h : c.same d = true) : c.position = d.position := by
  cases c with
  | within s i =>
    cases d with
    | within t j =>
      have hij : (s.elements == t.elements && i == j) = true := h
      exact beq_iff_eq.mp (Bool.and_eq_true_iff.mp hij).2
    | finished t => exact absurd h Bool.false_ne_true
  | finished s =>
    cases d with
    | within t j => exact absurd h Bool.false_ne_true
    | finished t => exact congrArg (fun s : Source α => s.elements.length) hs.symm

/-- A canonical cursor over a source whose atoms equal themselves. -/
def Sound (c : ElementCursor α) : Prop :=
  c.Canonical ∧ ∀ x ∈ c.source.elements, (x == x) = true

/-- Equality of such cursors over one source is equality of places. -/
theorem trackable : Cursor.Trackable (Sound (α := α)) where
  next_mem c h := ⟨h.1.next, by
    change ∀ x ∈ c.next.source.elements, _
    rw [source_next]
    exact h.2⟩
  remaining_next _ h := remaining_next h.1
  next_eq_self _ h hr := next_eq_self h.1 hr
  value?_eq _ h := value?_eq_head? h.1
  source_next := source_next
  beq_iff c d hc hd hs := by
    constructor
    · intro h
      have hposition : c.position = d.position := position_eq_of_same hc.1 hd.1 hs.symm h
      rw [hc.1.eq_place, hd.1.eq_place, hposition]
      exact congrArg (fun s => place s d.position) hs
    · rintro rfl
      exact beq_self hc.2

end ElementCursor
end Descent
