import Mathlib.Logic.Function.Iterate
import Descent.Cursor.Elements
import Descent.Cursor.Text

/-!
# Walks

A walk leads from a cursor to another one by single steps. On text this module follows cursors
that sit on a boundary, and on sequences cursors in the form that walking itself gives them. Both
kinds of walk stay in their source, go forward, and take the remaining atoms one by one.
-/
namespace Descent

namespace Cursor
variable {κ α : Type} [Cursor κ α] {good : κ → Prop} {c d e : κ}

/-- `d` is `c` after some number of steps. -/
def Reaches (c d : κ) : Prop :=
  ∃ n : Nat, next^[n] c = d

theorem Reaches.refl (c : κ) : Reaches c c := ⟨0, rfl⟩

theorem reaches_next (c : κ) : Reaches c (next c) := ⟨1, rfl⟩

theorem Reaches.trans (h : Reaches c d) (h' : Reaches d e) : Reaches c e := by
  obtain ⟨m, rfl⟩ := h
  obtain ⟨n, rfl⟩ := h'
  exact ⟨n + m, Function.iterate_add_apply next n m c⟩

/-- What a step preserves, a walk preserves. -/
theorem Reaches.preserves (h : Reaches c d) (step : ∀ c, good c → good (next c)) (hc : good c) :
    good d := by
  obtain ⟨n, rfl⟩ := h
  induction n with
  | zero => exact hc
  | succ n ih =>
    rw [Function.iterate_succ_apply']
    exact step _ ih

theorem Reaches.source_eq (h : Reaches c d) (hnext : ∀ c : κ, source (next c) = source c) :
    source d = source c :=
  h.preserves (fun e he => (hnext e).trans he) rfl

/-- A set of cursors to walk in: a step stays in the set and takes the first of the remaining
atoms, and where there is none it does not move. -/
structure Walkable (good : κ → Prop) : Prop where
  next_mem : ∀ c, good c → good (next c)
  remaining_next : ∀ c, good c → remaining (next c) = (remaining c).tail
  next_eq_self : ∀ c, good c → remaining c = [] → next c = c

/-- A walk either stays where it is or leaves fewer atoms than it found. -/
theorem Walkable.eq_or_length_lt (w : Walkable good) (hc : good c) (h : Reaches c d) :
    d = c ∨ (remaining d).length < (remaining c).length := by
  obtain ⟨n, rfl⟩ := h
  induction n with
  | zero => exact Or.inl rfl
  | succ n ih =>
    rw [Function.iterate_succ_apply']
    have hd : good (next^[n] c) := Reaches.preserves ⟨n, rfl⟩ w.next_mem hc
    cases hr : remaining (next^[n] c) with
    | nil => rwa [w.next_eq_self _ hd hr]
    | cons a as =>
      right
      have hn : (remaining (next (next^[n] c))).length < (remaining (next^[n] c)).length := by
        simp [w.remaining_next _ hd, hr]
      rcases ih with he | hlt
      · rwa [he] at hn ⊢
      · exact Nat.lt_trans hn hlt

theorem Walkable.length_le (w : Walkable good) (hc : good c) (h : Reaches c d) :
    (remaining d).length ≤ (remaining c).length := by
  rcases w.eq_or_length_lt hc h with rfl | hlt
  · exact Nat.le_refl _
  · exact Nat.le_of_lt hlt

end Cursor

namespace TextCursor
variable {c d : TextCursor}

/-- The offset falls between two characters, or at one of the ends. -/
def OnBoundary (c : TextCursor) : Prop :=
  ∃ before, c.source.elements = before ++ c.remaining ∧ Utf8.byteSize before = c.offset

theorem remaining_eq_of_append {before after : List Char}
    (h : c.source.elements = before ++ after) (ho : Utf8.byteSize before = c.offset) :
    c.remaining = after := by
  rw [remaining, ← ho, h, Utf8.dropBytes?_byteSize_append]
  rfl

theorem onBoundary_of_append {before after : List Char}
    (h : c.source.elements = before ++ after) (ho : Utf8.byteSize before = c.offset) :
    c.OnBoundary :=
  ⟨before, by rw [remaining_eq_of_append h ho, h], ho⟩

theorem onBoundary_start (s : Source Char) : (start s).OnBoundary := by
  have h : (start s).source.elements = [] ++ s.elements := rfl
  exact onBoundary_of_append h rfl

theorem OnBoundary.offset_le (h : c.OnBoundary) :
    c.offset ≤ Utf8.byteSize c.source.elements := by
  obtain ⟨before, he, ho⟩ := h
  rw [he, Utf8.byteSize_append]
  omega

theorem skipBytes_skipBytes (c : TextCursor) (m n : Nat) :
    (c.skipBytes m).skipBytes n = c.skipBytes (m + n) := by
  simp only [skipBytes, mk.injEq, true_and]
  omega

/-- Skipping the bytes of a leading part of the remaining text leaves the rest of it. -/
theorem OnBoundary.skipBytes (h : c.OnBoundary) {xs ys : List Char} (hr : c.remaining = xs ++ ys) :
    (c.skipBytes (Utf8.byteSize xs)).OnBoundary ∧
      (c.skipBytes (Utf8.byteSize xs)).remaining = ys := by
  obtain ⟨before, he, ho⟩ := h
  have hs : (c.skipBytes (Utf8.byteSize xs)).source.elements = (before ++ xs) ++ ys := by
    rw [List.append_assoc, ← hr]
    exact he
  have hoff : Utf8.byteSize (before ++ xs) = (c.skipBytes (Utf8.byteSize xs)).offset := by
    simp only [TextCursor.skipBytes, he, hr, Utf8.byteSize_append, ho]
    omega
  exact ⟨onBoundary_of_append hs hoff, remaining_eq_of_append hs hoff⟩

theorem next_of_cons {ch : Char} {cs : List Char} (h : c.remaining = ch :: cs) :
    c.next = c.skipBytes (Utf8.byteSize [ch]) := by
  simp [next, h]

theorem next_of_nil (h : c.remaining = []) : c.next = c := by
  simp [next, h]

@[simp] theorem source_next (c : TextCursor) : c.next.source = c.source := by
  unfold next
  split
  · rfl
  · rfl

theorem walkable : Cursor.Walkable OnBoundary where
  next_mem c h := by
    cases hr : c.remaining with
    | nil =>
      change c.next.OnBoundary
      rwa [next_of_nil hr]
    | cons ch cs =>
      change c.next.OnBoundary
      rw [next_of_cons hr]
      exact (h.skipBytes hr).1
  remaining_next c h := by
    change c.next.remaining = c.remaining.tail
    cases hr : c.remaining with
    | nil => rw [next_of_nil hr, hr, List.tail_nil]
    | cons ch cs =>
      rw [next_of_cons hr, List.tail_cons]
      exact (h.skipBytes hr).2
  next_eq_self _ _ hr := next_of_nil hr

/-- Skipping a leading part of the remaining text is a walk over its characters. -/
theorem OnBoundary.iterate_next_length (h : c.OnBoundary) {xs ys : List Char}
    (hr : c.remaining = xs ++ ys) :
    Cursor.next^[xs.length] c = c.skipBytes (Utf8.byteSize xs) := by
  induction xs generalizing c with
  | nil =>
    have hle := h.offset_le
    simp only [TextCursor.skipBytes, Utf8.byteSize_nil, Nat.add_zero, Nat.min_eq_left hle]
    rfl
  | cons x xs ih =>
    have hnext : (c.skipBytes (Utf8.byteSize [x])).OnBoundary ∧ _ := h.skipBytes hr
    have hwalk := ih hnext.1 hnext.2
    rw [skipBytes_skipBytes, ← Utf8.byteSize_append, ← next_of_cons hr] at hwalk
    exact hwalk

theorem OnBoundary.reaches_skipBytes (h : c.OnBoundary) {xs ys : List Char}
    (hr : c.remaining = xs ++ ys) : Cursor.Reaches c (c.skipBytes (Utf8.byteSize xs)) :=
  ⟨xs.length, h.iterate_next_length hr⟩

theorem OnBoundary.offset_le_next (h : c.OnBoundary) : c.offset ≤ c.next.offset := by
  cases hr : c.remaining with
  | nil => exact Nat.le_of_eq (congrArg offset (next_of_nil hr)).symm
  | cons ch cs =>
    have hle := h.offset_le
    simp only [next_of_cons hr, TextCursor.skipBytes]
    omega

theorem offset_le_of_reaches (hc : c.OnBoundary) (h : Cursor.Reaches c d) :
    c.offset ≤ d.offset := by
  have step : ∀ d : TextCursor, d.OnBoundary ∧ c.offset ≤ d.offset →
      (Cursor.next d).OnBoundary ∧ c.offset ≤ (Cursor.next d).offset := by
    rintro d ⟨hd, hle⟩
    exact ⟨walkable.next_mem d hd, Nat.le_trans hle hd.offset_le_next⟩
  exact (h.preserves step ⟨hc, Nat.le_refl _⟩).2

theorem source_eq_of_reaches (h : Cursor.Reaches c d) : d.source = c.source :=
  h.source_eq source_next

/-- Of two boundaries of one source, walking leads from the earlier to the later. -/
theorem reaches_of_offset_le (hc : c.OnBoundary) (hd : d.OnBoundary) (hs : d.source = c.source)
    (hle : c.offset ≤ d.offset) : Cursor.Reaches c d := by
  obtain ⟨before, he, ho⟩ := id hc
  obtain ⟨before', he', ho'⟩ := id hd
  have hsplit : before ++ c.remaining = before' ++ d.remaining := by rw [← he, ← he', hs]
  obtain ⟨between, hbetween, hrest⟩ :
      ∃ between, before' = before ++ between ∧ c.remaining = between ++ d.remaining := by
    rcases List.append_eq_append_iff.mp hsplit with h | ⟨between, hb, hr⟩
    · exact h
    · -- The other order of the two prefixes leaves no bytes between them.
      have hzero : Utf8.byteSize between = 0 := by
        have := congrArg Utf8.byteSize hb
        rw [Utf8.byteSize_append] at this
        omega
      obtain rfl := Utf8.eq_nil_of_byteSize hzero
      exact ⟨[], by simpa using hb.symm, by simpa using hr.symm⟩
  have hsize : d.offset = c.offset + Utf8.byteSize between := by
    rw [← ho', hbetween, Utf8.byteSize_append, ho]
  have hend : d.offset ≤ Utf8.byteSize c.source.elements := hs ▸ hd.offset_le
  have hskip : d = c.skipBytes (Utf8.byteSize between) := calc
    d = ⟨d.source, d.offset⟩ := rfl
    _ = c.skipBytes (Utf8.byteSize between) := by
      rw [TextCursor.skipBytes, hs, ← hsize, Nat.min_eq_left hend]
  rw [hskip]
  exact hc.reaches_skipBytes hrest

theorem beq_self (c : TextCursor) : (c == c) = true := by
  change (c.source.elements == c.source.elements && c.offset == c.offset) = true
  simp

end TextCursor

namespace ElementCursor
variable {α : Type} {c d : ElementCursor α}

/-- The position does not lie past the end of the source. -/
def InBounds (c : ElementCursor α) : Prop :=
  c.position ≤ c.source.elements.length

/-- The form that walking gives a cursor: an index stands before an atom. -/
def Canonical : ElementCursor α → Prop
  | within s i => i < s.elements.length
  | finished _ => True

theorem Canonical.inBounds (h : c.Canonical) : c.InBounds := by
  cases c with
  | within s i => exact Nat.le_of_lt h
  | finished s => exact Nat.le_refl _

theorem canonical_start (s : Source α) : (start s).Canonical := by
  unfold start
  split
  · trivial
  · next h => exact List.length_pos_iff.mpr (by simpa using h)

@[simp] theorem source_next (c : ElementCursor α) : c.next.source = c.source := by
  cases c with
  | within s i =>
    simp only [next]
    split
    · rfl
    · rfl
  | finished s => rfl

theorem Canonical.next (h : c.Canonical) : c.next.Canonical := by
  cases c with
  | within s i =>
    simp only [ElementCursor.next]
    split
    · trivial
    · next hi => exact Nat.lt_of_not_le hi
  | finished s => trivial

theorem InBounds.next (h : c.InBounds) : c.next.InBounds ∧ c.position ≤ c.next.position := by
  cases c with
  | within s i =>
    have hi : i ≤ s.elements.length := h
    simp only [ElementCursor.next]
    split
    · exact ⟨Nat.le_refl _, hi⟩
    · next hlt => exact ⟨Nat.le_of_lt (Nat.lt_of_not_le hlt), Nat.le_succ i⟩
  | finished s => exact ⟨h, Nat.le_refl _⟩

theorem remaining_next (h : c.Canonical) : c.next.remaining = c.remaining.tail := by
  cases c with
  | within s i =>
    simp only [ElementCursor.next, remaining]
    split
    · next hi => simp [source, position, List.drop_eq_nil_of_le hi]
    · simp [source, position]
  | finished s => simp [ElementCursor.next, remaining, source, position]

theorem next_eq_self (h : c.Canonical) (hr : c.remaining = []) : c.next = c := by
  cases c with
  | within s i =>
    have hle : s.elements.length ≤ i := List.drop_eq_nil_iff.mp hr
    exact absurd h (Nat.not_lt_of_le hle)
  | finished s => rfl

/-- The canonical cursor at a position: its end, if no atom follows. -/
def place (s : Source α) (p : Nat) : ElementCursor α :=
  if p < s.elements.length then within s p else finished s

theorem Canonical.eq_place (h : c.Canonical) : c = place c.source c.position := by
  cases c with
  | within s i => exact (if_pos h).symm
  | finished s => exact (if_neg (Nat.lt_irrefl _)).symm

theorem next_place (s : Source α) (p : Nat) : (place s p).next = place s (p + 1) := by
  by_cases hp : p < s.elements.length
  · by_cases hp' : p + 1 < s.elements.length
    · simp only [place, if_pos hp, if_pos hp', ElementCursor.next, if_neg (Nat.not_le_of_lt hp')]
    · simp only [place, if_pos hp, if_neg hp', ElementCursor.next, if_pos (Nat.le_of_not_lt hp')]
  · have hp' : ¬ p + 1 < s.elements.length := by omega
    simp only [place, if_neg hp, if_neg hp', ElementCursor.next]

variable [BEq α] [Atom α]

theorem iterate_next_place (s : Source α) (p n : Nat) :
    Cursor.next^[n] (place s p) = place s (p + n) := by
  induction n with
  | zero => rfl
  | succ n ih =>
    rw [Function.iterate_succ_apply', ih]
    exact next_place s (p + n)

/-- Of two canonical cursors of one source, walking leads from the earlier to the later. -/
theorem reaches_of_position_le (hc : c.Canonical) (hd : d.Canonical) (hs : d.source = c.source)
    (hle : c.position ≤ d.position) : Cursor.Reaches c d := by
  refine ⟨d.position - c.position, ?_⟩
  rw [hc.eq_place, iterate_next_place, ← hc.eq_place, Nat.add_sub_cancel' hle, ← hs]
  exact hd.eq_place.symm

theorem walkable : Cursor.Walkable (Canonical (α := α)) where
  next_mem _ h := h.next
  remaining_next _ h := remaining_next h
  next_eq_self _ h hr := next_eq_self h hr

theorem position_le_of_reaches (hc : c.InBounds) (h : Cursor.Reaches c d) :
    d.InBounds ∧ c.position ≤ d.position := by
  have step : ∀ d : ElementCursor α, d.InBounds ∧ c.position ≤ d.position →
      d.next.InBounds ∧ c.position ≤ d.next.position := by
    rintro d ⟨hd, hle⟩
    exact ⟨hd.next.1, Nat.le_trans hle hd.next.2⟩
  exact h.preserves step ⟨hc, Nat.le_refl _⟩

theorem source_eq_of_reaches (h : Cursor.Reaches c d) : d.source = c.source :=
  h.source_eq source_next

omit [Atom α] in
theorem beq_self_of_forall_mem {xs : List α} (h : ∀ a ∈ xs, (a == a) = true) :
    (xs == xs) = true := by
  induction xs with
  | nil => rfl
  | cons x xs ih =>
    rw [List.cons_beq_cons, h x List.mem_cons_self, ih fun a ha => h a (List.mem_cons_of_mem x ha)]
    rfl

omit [Atom α] in
theorem forall_mem_of_beq_self {xs : List α} (h : (xs == xs) = true) :
    ∀ a ∈ xs, (a == a) = true := by
  induction xs with
  | nil => simp
  | cons x xs ih =>
    rw [List.cons_beq_cons, Bool.and_eq_true] at h
    exact List.forall_mem_cons.mpr ⟨h.1, ih h.2⟩

/-- A cursor equals itself if the atoms of its source do. -/
theorem beq_self (h : ∀ a ∈ c.source.elements, (a == a) = true) : (c == c) = true := by
  have hs : (c.source.elements == c.source.elements) = true := beq_self_of_forall_mem h
  cases c with
  | within s i =>
    change (s.elements == s.elements && i == i) = true
    exact Bool.and_eq_true_iff.mpr ⟨hs, beq_self_eq_true i⟩
  | finished s => exact hs

end ElementCursor
end Descent
