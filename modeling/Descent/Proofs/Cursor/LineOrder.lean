import Mathlib.Data.Nat.Count
import Mathlib.Data.Prod.Lex
import Descent.Proofs.Cursor.Walk

/-!
# The order of lines

A location counts the newlines that start before a position, and measures the offset from right
behind the last of them, wherever the position lies: between two atoms, amid the bytes of one, or
past the end. The scan keeps the line of the place it has come to, so it never subtracts more than
there is. Line and offset together put positions in the order they have in the source.
-/
namespace Descent

namespace Location
variable {α : Type} {newlineAt : Nat → Prop} {isNewline : α → Bool}

/-! ## Lines -/

/-- If newlines stand where `newlineAt` says, `position` lies on the line `line`, and this line
starts at `start`: right behind the last newline before the position, or at 0. -/
structure OnLine (newlineAt : Nat → Prop) [DecidablePred newlineAt] (position line start : Nat) :
    Prop where
  line_eq : line = 1 + Nat.count newlineAt position
  start_le : start ≤ position
  start_eq : start = 0 ∨ ∃ i, newlineAt i ∧ start = i + 1
  none_since : ∀ i, start ≤ i → i < position → ¬ newlineAt i

namespace OnLine
variable [DecidablePred newlineAt] {p q line line' start start' : Nat}

theorem first : OnLine newlineAt 0 1 0 where
  line_eq := by rw [Nat.count_zero]
  start_le := Nat.le_refl 0
  start_eq := Or.inl rfl
  none_since i _ hi := absurd hi (Nat.not_lt_zero i)

/-- Up to the next newline, the line goes on. -/
theorem goOn (h : OnLine newlineAt p line start) (hpq : p ≤ q)
    (hnone : ∀ i, p ≤ i → i < q → ¬ newlineAt i) : OnLine newlineAt q line start where
  line_eq := by
    induction q, hpq using Nat.le_induction with
    | base => exact h.line_eq
    | succ q hpq ih =>
      have hq : ¬ newlineAt q := hnone q hpq (Nat.lt_succ_self q)
      rw [ih fun i hi hlt => hnone i hi (by omega), Nat.count_succ, if_neg hq, Nat.add_zero]
  start_le := Nat.le_trans h.start_le hpq
  start_eq := h.start_eq
  none_since i hi hlt := by
    by_cases hp : i < p
    · exact h.none_since i hi hp
    · exact hnone i (Nat.le_of_not_lt hp) hlt

/-- Behind a newline, a line begins. -/
theorem newline (h : OnLine newlineAt p line start) (hp : newlineAt p) :
    OnLine newlineAt (p + 1) (line + 1) (p + 1) where
  line_eq := by rw [h.line_eq, Nat.count_succ, if_pos hp, Nat.add_assoc]
  start_le := Nat.le_refl _
  start_eq := Or.inr ⟨p, hp, rfl⟩
  none_since i hi hlt := by omega

theorem start_unique (h : OnLine newlineAt p line start) (h' : OnLine newlineAt p line' start') :
    start = start' := by
  have not_lt : ∀ {line line' start start' : Nat}, OnLine newlineAt p line start →
      OnLine newlineAt p line' start' → ¬ start < start' := by
    intro line line' start start' h h' hlt
    rcases h'.start_eq with hzero | ⟨i, hi, hstart⟩
    · omega
    · have hle := h'.start_le
      exact h.none_since i (by omega) (by omega) hi
  have hle := not_lt h h'
  have hge := not_lt h' h
  omega

/-- A later position lies on a later line, or on the same one, which has not been left. -/
theorem line_lt_or (h : OnLine newlineAt p line start) (h' : OnLine newlineAt q line' start')
    (hpq : p < q) : line < line' ∨ line = line' ∧ start = start' := by
  have hle : line ≤ line' := by
    rw [h.line_eq, h'.line_eq]
    exact Nat.add_le_add_left (Nat.count_monotone _ (Nat.le_of_lt hpq)) 1
  rcases Nat.lt_or_eq_of_le hle with hlt | heq
  · exact Or.inl hlt
  · have hnone : ∀ i, p ≤ i → i < q → ¬ newlineAt i := by
      intro i hpi hiq hi
      have hmore : Nat.count newlineAt p < Nat.count newlineAt q :=
        Nat.lt_of_le_of_lt (Nat.count_monotone _ hpi) (Nat.count_strict_mono hi hiq)
      rw [h.line_eq, h'.line_eq] at heq
      omega
    exact Or.inr ⟨heq, (h.goOn (Nat.le_of_lt hpq) hnone).start_unique h'⟩

end OnLine

/-- The location tells the line that `position` lies on, and the offset from where the line
starts. -/
def Tells (newlineAt : Nat → Prop) [DecidablePred newlineAt] (position : Nat) (l : Location) :
    Prop :=
  l.position = position ∧
    ∃ start, OnLine newlineAt position l.line start ∧ l.offset = position - start

/-- Line and offset, in lexicographic order. -/
def place (l : Location) : Nat ×ₗ Nat := toLex (l.line, l.offset)

section
variable [DecidablePred newlineAt] {p q : Nat} {l m : Location}

theorem Tells.place_lt (h : l.Tells newlineAt p) (h' : m.Tells newlineAt q) (hpq : p < q) :
    l.place < m.place := by
  obtain ⟨-, start, hl, hoffset⟩ := h
  obtain ⟨-, start', hm, hoffset'⟩ := h'
  refine Prod.Lex.toLex_lt_toLex.mpr ?_
  rcases hl.line_lt_or hm hpq with hlt | ⟨heq, rfl⟩
  · exact Or.inl hlt
  · have hle := hl.start_le
    exact Or.inr ⟨heq, show l.offset < m.offset by omega⟩

theorem Tells.position_eq (h : l.Tells newlineAt p) (h' : m.Tells newlineAt q)
    (heq : l.place = m.place) : p = q := by
  rcases Nat.lt_trichotomy p q with hlt | rfl | hlt
  · exact absurd heq (ne_of_lt (h.place_lt h' hlt))
  · rfl
  · exact absurd heq.symm (ne_of_lt (h'.place_lt h hlt))

end

/-! ## The scan -/

/-- The scan, with no answer where the start of the line lies behind the position, so that there is
nothing to subtract it from. -/
def scanFrom? (isNewline : α → Bool) (position line lineStart : Nat) :
    List (Nat × α) → Option Location
  | [] => if lineStart ≤ position then some ⟨position, line, position - lineStart⟩ else none
  | (i, a) :: rest =>
    if position ≤ i then
      if lineStart ≤ position then some ⟨position, line, position - lineStart⟩ else none
    else if isNewline a then scanFrom? isNewline position (line + 1) (i + 1) rest
    else scanFrom? isNewline position line lineStart rest

def scan? (isNewline : α → Bool) (elements : List (Nat × α)) (position : Nat) : Option Location :=
  scanFrom? isNewline position 1 0 elements

theorem scanFrom?_eq_some {position line lineStart : Nat} {xs : List (Nat × α)}
    (h : lineStart ≤ position) : scanFrom? isNewline position line lineStart xs =
      some (scanFrom isNewline position line lineStart xs) := by
  induction xs generalizing line lineStart with
  | nil => exact if_pos h
  | cons x xs ih =>
    obtain ⟨i, a⟩ := x
    rw [scanFrom?, scanFrom]
    by_cases hi : position ≤ i
    · rw [if_pos hi, if_pos hi, if_pos h]
    · rw [if_neg hi, if_neg hi]
      by_cases ha : isNewline a
      · rw [if_pos ha, if_pos ha]
        exact ih (by omega)
      · rw [if_neg ha, if_neg ha]
        exact ih h

/-- However the elements are numbered, the scan subtracts no more than there is. -/
theorem scan?_eq_some (elements : List (Nat × α)) (position : Nat) :
    scan? isNewline elements position = some (scan isNewline elements position) :=
  scanFrom?_eq_some (Nat.zero_le position)

/-- The elements `xs`, in increasing order, are those from `b` on, and they have the newlines. -/
structure Ahead (newlineAt : Nat → Prop) (isNewline : α → Bool) (b : Nat) (xs : List (Nat × α)) :
    Prop where
  le_of_mem : ∀ x ∈ xs, b ≤ x.1
  increasing : xs.Pairwise fun x y => x.1 < y.1
  newlineAt_iff : ∀ i, b ≤ i → (newlineAt i ↔ ∃ a, (i, a) ∈ xs ∧ isNewline a = true)

namespace Ahead
variable {b i : Nat} {a : α} {xs : List (Nat × α)}

theorem not_newlineAt_of_nil (h : Ahead newlineAt isNewline b []) (hi : b ≤ i) :
    ¬ newlineAt i := by
  intro hat
  obtain ⟨a, ha, -⟩ := (h.newlineAt_iff i hi).mp hat
  exact absurd ha List.not_mem_nil

section
variable (h : Ahead newlineAt isNewline b ((i, a) :: xs))
include h

theorem le_head : b ≤ i :=
  h.le_of_mem (i, a) List.mem_cons_self

theorem lt_of_mem : ∀ x ∈ xs, i < x.1 :=
  (List.pairwise_cons.mp h.increasing).1

theorem not_newlineAt_of_lt {j : Nat} (hj : b ≤ j) (hlt : j < i) : ¬ newlineAt j := by
  intro hat
  obtain ⟨a', ha', -⟩ := (h.newlineAt_iff j hj).mp hat
  rcases List.mem_cons.mp ha' with heq | hmem
  · have hji : j = i := congrArg Prod.fst heq
    omega
  · have hij : i < j := h.lt_of_mem _ hmem
    omega

theorem newlineAt_head_iff : newlineAt i ↔ isNewline a = true := by
  rw [h.newlineAt_iff i h.le_head]
  constructor
  · rintro ⟨a', ha', hnewline⟩
    rcases List.mem_cons.mp ha' with heq | hmem
    · obtain rfl : a' = a := congrArg Prod.snd heq
      exact hnewline
    · exact absurd (h.lt_of_mem _ hmem) (Nat.lt_irrefl i)
  · exact fun ha => ⟨a, List.mem_cons_self, ha⟩

theorem tail : Ahead newlineAt isNewline (i + 1) xs where
  le_of_mem := h.lt_of_mem
  increasing := (List.pairwise_cons.mp h.increasing).2
  newlineAt_iff j hj := by
    have hi := h.le_head
    rw [h.newlineAt_iff j (by omega)]
    refine exists_congr fun a' => and_congr_left fun _ => ?_
    rw [List.mem_cons, or_iff_right]
    intro heq
    have hji : j = i := congrArg Prod.fst heq
    omega

end
end Ahead

variable [DecidablePred newlineAt]

/-- A scan that has come to `b` and knows the line there tells the line of any later position. -/
theorem tells_scanFrom {b position line start : Nat} {xs : List (Nat × α)}
    (h : OnLine newlineAt b line start) (hb : b ≤ position)
    (hxs : Ahead newlineAt isNewline b xs) :
    (scanFrom isNewline position line start xs).Tells newlineAt position := by
  induction xs generalizing b line start with
  | nil => exact ⟨rfl, start, h.goOn hb fun _ hi _ => hxs.not_newlineAt_of_nil hi, rfl⟩
  | cons x xs ih =>
    obtain ⟨i, a⟩ := x
    rw [scanFrom]
    by_cases hi : position ≤ i
    · rw [if_pos hi]
      exact ⟨rfl, start, h.goOn hb fun j hj hlt => hxs.not_newlineAt_of_lt hj (by omega), rfl⟩
    · have hnext : i + 1 ≤ position := by omega
      have hline : OnLine newlineAt i line start :=
        h.goOn hxs.le_head fun _ => hxs.not_newlineAt_of_lt
      rw [if_neg hi]
      by_cases ha : isNewline a
      · rw [if_pos ha]
        exact ih (hline.newline (hxs.newlineAt_head_iff.mpr ha)) hnext hxs.tail
      · have hat : ¬ newlineAt i := fun hat => ha (hxs.newlineAt_head_iff.mp hat)
        rw [if_neg ha]
        exact ih (hline.goOn (Nat.le_succ i) fun j hj hlt => by
          rwa [show j = i by omega]) hnext hxs.tail

theorem tells_scan {position : Nat} {elements : List (Nat × α)}
    (h : Ahead newlineAt isNewline 0 elements) :
    (scan isNewline elements position).Tells newlineAt position :=
  tells_scanFrom .first (Nat.zero_le position) h

end Location

/-! ## Cursors -/

namespace Cursor
variable {κ α : Type} [Cursor κ α] [BEq α] [Atom α]

/-- Whether a newline starts at the cursor. -/
def atNewline (c : κ) : Bool :=
  (value? c).any Atom.isNewline

/-- The locations of cursors count lines exactly and in order. The atoms of a source are numbered by
the positions they start at, and `place s i` is the cursor that stands at `i`. -/
structure CountsLines (numbered : Source α → List (Nat × α)) (place : Source α → Nat → κ) :
    Prop where
  subtracts_no_more : ∀ c : κ,
    Location.scan? Atom.isNewline (numbered (source c)) (position c) = some (location c)
  tells : ∀ c : κ, (location c).Tells (fun i => atNewline (place (source c) i)) (position c)
  place_lt : ∀ c d : κ, source c = source d → position c < position d →
    (location c).place < (location d).place
  position_eq : ∀ c d : κ, source c = source d → (location c).place = (location d).place →
    position c = position d

theorem countsLines {numbered : Source α → List (Nat × α)} {place : Source α → Nat → κ}
    (hlocation : ∀ c : κ, location c =
      Location.scan Atom.isNewline (numbered (source c)) (position c))
    (hplace : ∀ s i a, value? (place s i) = some a ↔ (i, a) ∈ numbered s)
    (hnumbered : ∀ s, (numbered s).Pairwise fun x y => x.1 < y.1) :
    CountsLines numbered place := by
  have htells : ∀ c : κ,
      (location c).Tells (fun i => atNewline (place (source c) i)) (position c) := by
    intro c
    rw [hlocation]
    refine Location.tells_scan ⟨fun _ _ => Nat.zero_le _, hnumbered _, fun i _ => ?_⟩
    rw [atNewline, Option.any_eq_true]
    exact exists_congr fun a => and_congr_left fun _ => hplace _ i a
  refine ⟨fun c => ?_, htells, fun c d hs hlt => ?_, fun c d hs heq => ?_⟩
  · rw [hlocation]
    exact Location.scan?_eq_some _ _
  · have hc := htells c
    rw [hs] at hc
    exact hc.place_lt (htells d) hlt
  · have hc := htells c
    rw [hs] at hc
    exact hc.position_eq (htells d) heq

end Cursor

namespace Utf8

theorem mem_indexed_iff {start i : Nat} {a : Char} {cs : List Char} :
    (i, a) ∈ indexed start cs ↔
      ∃ before after, cs = before ++ a :: after ∧ start + byteSize before = i := by
  induction cs generalizing start with
  | nil => simp [indexed]
  | cons c cs ih =>
    rw [indexed, List.mem_cons, ih]
    constructor
    · rintro (heq | ⟨before, after, rfl, hi⟩)
      · obtain ⟨rfl, rfl⟩ := Prod.mk.inj heq
        exact ⟨[], cs, rfl, rfl⟩
      · exact ⟨c :: before, after, rfl, by rw [byteSize_cons, ← Nat.add_assoc, hi]⟩
    · rintro ⟨before, after, hcs, hi⟩
      cases before with
      | nil =>
        obtain ⟨rfl, rfl⟩ := List.cons.inj hcs
        exact Or.inl (by rw [← hi]; rfl)
      | cons b before =>
        obtain ⟨rfl, rfl⟩ := List.cons.inj hcs
        exact Or.inr ⟨before, after, rfl, by rw [← hi, byteSize_cons, Nat.add_assoc]⟩

theorem pairwise_indexed (start : Nat) (cs : List Char) :
    (indexed start cs).Pairwise fun x y => x.1 < y.1 := by
  induction cs generalizing start with
  | nil => exact List.Pairwise.nil
  | cons c cs ih =>
    refine List.pairwise_cons.mpr ⟨fun y hy => ?_, ih _⟩
    obtain ⟨before, after, -, hi⟩ := mem_indexed_iff.mp hy
    have hpos : 0 < c.utf8Size := c.utf8Size_pos
    show start < y.1
    omega

end Utf8

/-- A character is read where it starts, and nowhere else. -/
theorem TextCursor.value?_eq_some_iff {s : Source Char} {i : Nat} {a : Char} :
    Cursor.value? (⟨s, i⟩ : TextCursor) = some a ↔ (i, a) ∈ Utf8.indexed 0 s.elements := by
  change ((Utf8.dropBytes? i s.elements).getD []).head? = some a ↔ _
  rw [Utf8.mem_indexed_iff]
  constructor
  · intro h
    cases hdrop : Utf8.dropBytes? i s.elements with
    | none =>
      rw [hdrop] at h
      exact absurd h (by simp)
    | some rest =>
      rw [hdrop] at h
      obtain ⟨after, rfl⟩ := List.head?_eq_some_iff.mp h
      obtain ⟨before, hs, hi⟩ := Utf8.exists_append_of_dropBytes? hdrop
      exact ⟨before, after, hs, by rw [Nat.zero_add, hi]⟩
  · rintro ⟨before, after, hs, hi⟩
    rw [hs, ← hi, Nat.zero_add, Utf8.dropBytes?_byteSize_append]
    rfl

namespace ElementCursor
variable {α : Type}

theorem mem_numbered_iff {xs : List α} {i : Nat} {a : α} :
    (i, a) ∈ xs.zipIdx.map (fun (a, i) => (i, a)) ↔ xs[i]? = some a := by
  rw [← List.mk_mem_zipIdx_iff_getElem?, List.mem_map]
  constructor
  · rintro ⟨⟨a', i'⟩, hmem, heq⟩
    obtain ⟨rfl, rfl⟩ := Prod.mk.inj heq
    exact hmem
  · exact fun hmem => ⟨(a, i), hmem, rfl⟩

theorem pairwise_numbered (xs : List α) :
    (xs.zipIdx.map fun (a, i) => (i, a)).Pairwise fun x y => x.1 < y.1 := by
  have h : (xs.zipIdx.map Prod.snd).Pairwise (· < ·) := by
    rw [List.zipIdx_map_snd]
    exact List.pairwise_lt_range'
  exact List.pairwise_map.mpr (List.pairwise_map.mp h)

end ElementCursor

/-- Line counting is exact and keeps the order of positions. The location of a cursor has its
position; a line that is one more than the number of positions before it at which a newline is read;
and the offset from right behind the last of these, or from 0 if there is none, which never lies
behind the position. Of two cursors over one source, the one at the later position has the greater
line, or the same line and the greater offset. The position may be any whatever: at a newline, amid
a character, or past the end. -/
theorem lines_counted_exactly :
    Cursor.CountsLines (fun s => Utf8.indexed 0 s.elements) TextCursor.mk ∧
      ∀ {α : Type} [BEq α] [Atom α],
        Cursor.CountsLines (fun s : Source α => s.elements.zipIdx.map fun (a, i) => (i, a))
          ElementCursor.within := by
  constructor
  · exact Cursor.countsLines (fun _ => rfl) (fun _ _ _ => TextCursor.value?_eq_some_iff)
      fun s => Utf8.pairwise_indexed 0 s.elements
  · exact Cursor.countsLines (fun _ => rfl) (fun _ _ _ => ElementCursor.mem_numbered_iff.symm)
      fun s => ElementCursor.pairwise_numbered s.elements

/-- A position past the end lies on the last line, which starts behind the newline at 2. -/
example : Cursor.location (⟨⟨0, ['é', '\n', 'b']⟩, 9⟩ : TextCursor) = ⟨9, 2, 6⟩ := by decide

end Descent
