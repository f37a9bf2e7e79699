import Descent.Forward.Command

/-!
# The tally of handles

A slot is there as long as the one handle that owns it, and a box as long as any handle to it,
whether the table holds the handle, the definition in a slot, or another box. Every operation of a
store keeps this tally. In the middle of one, handles can be on their way from one holder to
another, or on their way out; they are counted too.
-/
namespace Descent.Forward

/-- A slot or a box: handles keep it, and it may hold handles itself. -/
inductive Node where
  | slot (s : Nat)
  | box (b : Nat)
  deriving DecidableEq

/-- The handle that keeps a node. -/
def Node.keeper : Node → Handle
  | slot s => .owner s
  | box b => .boxed b

theorem Node.keeper_injective {x y : Node} (h : x.keeper = y.keeper) : x = y := by
  cases x <;> cases y <;> simp_all [keeper]

theorem Node.keeper_copy_slot (h : Handle) (s : Nat) : (slot s).keeper ≠ h.copy := by
  cases h <;> simp [keeper, Handle.copy]

variable {L : Type → Type} {ρ V κ α : Type}

namespace Store
variable {st : Store L ρ V} {pending hs : List Handle} {x y : Node} {h : Handle} {name : String}

/-- Whether the node is still there. -/
def Alive (st : Store L ρ V) : Node → Prop
  | .slot s => ∃ slot, st.slots[s]? = some slot ∧ slot.isAlive = true
  | .box b => ∃ d, st.boxes[b]? = some (some d)

/-- The handles that a node holds. -/
def holdings (st : Store L ρ V) : Node → List Handle
  | .slot s => (st.slots[s]?.map Slot.held).getD []
  | .box b => (st.boxes[b]?.map boxHeld).getD []

/-- Takes a node away, and leaves the handles that it held to the caller. -/
def clear (st : Store L ρ V) : Node → Store L ρ V
  | .slot s => { st with slots := st.slots.set s .dropped }
  | .box b => { st with boxes := st.boxes.set b none }

/-- The handles of a store, with those that are `pending`, tally with the nodes: a node is there if
and only if a handle keeps it, and never do two handles own a slot. No name is used twice, no handle
refers to a slot that was never declared, and a box holds only boxes that were made before it. -/
structure Tally (st : Store L ρ V) (pending : List Handle) : Prop where
  names_nodup : (st.handles.map (·.1)).Nodup
  owner_count_le_one : ∀ s, (st.allHandles ++ pending).count (.owner s) ≤ 1
  alive_iff_mem : ∀ x, st.Alive x ↔ x.keeper ∈ st.allHandles ++ pending
  declared : ∀ h ∈ st.allHandles ++ pending, ∀ s, slotOf h = some s → s < st.slots.length
  older : ∀ b b', Handle.boxed b' ∈ st.holdings (.box b) → b' < b

theorem tally_empty : ({} : Store L ρ V).Tally [] where
  names_nodup := List.nodup_nil
  owner_count_le_one s := by simp [allHandles, captured]
  alive_iff_mem x := by cases x <;> simp [Alive, allHandles, captured]
  declared h hh := by simp [allHandles, captured] at hh
  older b b' hb := by simp [holdings] at hb

/-- Moving handles between holders and the pending ones does not change the tally. -/
theorem Tally.of_perm {st' : Store L ρ V} {pending' : List Handle} (t : st.Tally pending)
    (hnames : (st'.handles.map (·.1)).Nodup)
    (hperm : (st'.allHandles ++ pending').Perm (st.allHandles ++ pending))
    (halive : ∀ x, st'.Alive x ↔ st.Alive x) (hlen : st'.slots.length = st.slots.length)
    (hboxes : ∀ b b', Handle.boxed b' ∈ st'.holdings (.box b) → b' < b) : st'.Tally pending' where
  names_nodup := hnames
  owner_count_le_one s := hperm.count_eq _ ▸ t.owner_count_le_one s
  alive_iff_mem x := by rw [halive, t.alive_iff_mem, hperm.mem_iff]
  declared h hh s hs := hlen ▸ t.declared h (hperm.mem_iff.mp hh) s hs
  older := hboxes

/-- A pending handle can go if it keeps nothing, or if another handle keeps the same box. -/
theorem Tally.forget_pending (t : st.Tally (h :: hs))
    (hx : ∀ x : Node, h = x.keeper → x.keeper ∈ st.allHandles ++ hs) : st.Tally hs where
  names_nodup := t.names_nodup
  owner_count_le_one s := by
    have hle := t.owner_count_le_one s
    simp only [List.count_append, List.count_cons] at hle ⊢
    omega
  alive_iff_mem x := by
    rw [t.alive_iff_mem]
    simp only [List.mem_append, List.mem_cons] at hx ⊢
    constructor
    · rintro (hm | heq | hm)
      · exact Or.inl hm
      · exact hx x heq.symm
      · exact Or.inr hm
    · rintro (hm | hm)
      · exact Or.inl hm
      · exact Or.inr (Or.inr hm)
  declared hd hh s hs := by
    refine t.declared hd ?_ s hs
    rw [List.mem_append] at hh ⊢
    exact hh.imp_right (List.mem_cons_of_mem h)
  older := t.older

section clear

@[simp] theorem handles_clear (st : Store L ρ V) (x : Node) :
    (st.clear x).handles = st.handles := by
  cases x <;> rfl

@[simp] theorem length_slots_clear (st : Store L ρ V) (x : Node) :
    (st.clear x).slots.length = st.slots.length := by
  cases x <;> simp [clear]

/-- What a node held is no longer held once it is gone. -/
theorem allHandles_clear (h : st.Alive x) :
    ((st.clear x).allHandles ++ st.holdings x).Perm st.allHandles := by
  refine List.perm_iff_count.mpr fun hd => ?_
  cases x with
  | slot s =>
    obtain ⟨slot, hs, _⟩ := h
    have hcount := (perm_flatMap_set Slot.held st.slots s slot .dropped hs).count_eq hd
    simp only [allHandles, captured, clear, holdings, hs, List.count_append, Option.map_some,
      Option.getD_some, Slot.held, List.count_nil] at hcount ⊢
    omega
  | box b =>
    obtain ⟨d, hb⟩ := h
    have hcount := (perm_flatMap_set boxHeld st.boxes b (some d) none hb).count_eq hd
    simp only [allHandles, captured, clear, holdings, hb, List.count_append, Option.map_some,
      Option.getD_some, boxHeld, List.count_nil] at hcount ⊢
    omega

theorem alive_clear : (st.clear x).Alive y ↔ st.Alive y ∧ y ≠ x := by
  cases x with
  | slot s =>
    cases y with
    | slot s' =>
      by_cases hs : s = s'
      · subst hs
        simp [clear, Alive, Slot.isAlive, List.getElem?_set]
      · simp [clear, Alive, List.getElem?_set_ne hs, Ne.symm hs]
    | box b => simp [clear, Alive]
  | box b =>
    cases y with
    | slot s => simp [clear, Alive]
    | box b' =>
      by_cases hb : b = b'
      · subst hb
        simp [clear, Alive, List.getElem?_set]
      · simp [clear, Alive, List.getElem?_set_ne hb, Ne.symm hb]

theorem holdings_clear (st : Store L ρ V) (x y : Node) :
    (st.clear x).holdings y = if y = x then [] else st.holdings y := by
  cases x with
  | slot s =>
    cases y with
    | slot s' =>
      by_cases hs : s = s'
      · subst hs
        by_cases hlt : s < st.slots.length <;> simp [clear, holdings, Slot.held, hlt]
      · simp [clear, holdings, List.getElem?_set_ne hs, Ne.symm hs]
    | box b => simp [clear, holdings]
  | box b =>
    cases y with
    | slot s => simp [clear, holdings]
    | box b' =>
      by_cases hb : b = b'
      · subst hb
        by_cases hlt : b < st.boxes.length <;> simp [clear, holdings, boxHeld, hlt]
      · simp [clear, holdings, List.getElem?_set_ne hb, Ne.symm hb]

theorem holdings_clear_subset (st : Store L ρ V) (x y : Node) :
    (st.clear x).holdings y ⊆ st.holdings y := by
  rw [holdings_clear]
  split
  · exact List.nil_subset _
  · exact List.Subset.refl _

end clear

/-- A node whose last keeper is let go of goes away, and what it held is let go of next. -/
theorem Tally.clear (t : st.Tally (x.keeper :: hs)) (hx : x.keeper ∉ st.allHandles ++ hs) :
    (st.clear x).Tally (hs ++ st.holdings x) := by
  have hxalive : st.Alive x := (t.alive_iff_mem x).mpr (by simp)
  have hperm : ((st.clear x).allHandles ++ (hs ++ st.holdings x)).Perm (st.allHandles ++ hs) := by
    refine List.perm_iff_count.mpr fun hd => ?_
    have hcount := (allHandles_clear hxalive).count_eq hd
    simp only [List.count_append] at hcount ⊢
    omega
  constructor
  · rw [handles_clear]
    exact t.names_nodup
  · intro s
    have hle := t.owner_count_le_one s
    rw [hperm.count_eq]
    simp only [List.count_append, List.count_cons] at hle ⊢
    omega
  · intro y
    rw [alive_clear, t.alive_iff_mem, hperm.mem_iff]
    simp only [List.mem_append, List.mem_cons] at hx ⊢
    constructor
    · rintro ⟨hm | heq | hm, hne⟩
      · exact Or.inl hm
      · exact absurd (Node.keeper_injective heq) hne
      · exact Or.inr hm
    · intro hm
      refine ⟨hm.imp_right Or.inr, ?_⟩
      rintro rfl
      exact hx hm
  · intro h hh s hs
    have hmem := hperm.mem_iff.mp hh
    rw [length_slots_clear]
    refine t.declared h ?_ s hs
    rw [List.mem_append] at hmem ⊢
    exact hmem.imp_right (List.mem_cons_of_mem _)
  · intro b b' hb
    exact t.older b b' (holdings_clear_subset st x (.box b) hb)

theorem Tally.owner_notMem {s : Nat} (t : st.Tally (.owner s :: hs)) :
    Handle.owner s ∉ st.allHandles ++ hs := by
  have hcount := t.owner_count_le_one s
  rw [← List.count_eq_zero]
  simp only [List.count_append, List.count_cons_self] at hcount ⊢
  omega

/-- Letting go of all that is pending leaves a store that tallies by itself. -/
theorem Tally.release (t : st.Tally pending) : (st.release pending).Tally [] := by
  fun_induction Store.release st pending with
  | case1 st => exact t
  | case2 st s hs ih =>
    refine ih (t.forget_pending fun x hx => ?_)
    cases x <;> simp [Node.keeper] at hx
  | case3 st s hs slot hslot ih =>
    have hheld : st.holdings (.slot s) = slot.held := by simp [holdings, hslot]
    refine ih ?_
    rw [← hheld]
    exact Tally.clear (x := .slot s) t t.owner_notMem
  | case4 st s hs hslot ih =>
    obtain ⟨slot, hs, _⟩ := (t.alive_iff_mem (.slot s)).mpr (by simp [Node.keeper])
    simp [hs] at hslot
  | case5 st b hs box hbox hmem ih =>
    refine ih (t.forget_pending fun x hx => ?_)
    rw [← hx]
    simpa using hmem
  | case6 st b hs box hbox hmem ih =>
    have hheld : st.holdings (.box b) = boxHeld box := by simp [holdings, hbox]
    refine ih ?_
    rw [← hheld]
    exact Tally.clear (x := .box b) t (by simpa [Node.keeper] using hmem)
  | case7 st b hs hbox ih =>
    obtain ⟨d, hb⟩ := (t.alive_iff_mem (.box b)).mpr (by simp [Node.keeper])
    simp [hb] at hbox

section table

theorem perm_filter_find? (table : List (String × Handle)) (hn : (table.map (·.1)).Nodup)
    (name : String) :
    ((table.filter (·.1 != name)).map (·.2) ++
      ((table.find? (·.1 == name)).map (·.2)).toList).Perm (table.map (·.2)) := by
  induction table with
  | nil => exact List.Perm.refl _
  | cons entry table ih =>
    obtain ⟨hnotin, hn⟩ := List.nodup_cons.mp hn
    by_cases hname : entry.1 = name
    · have hself : table.filter (·.1 != name) = table := by
        refine List.filter_eq_self.mpr fun other hother => ?_
        have hne : other.1 ≠ name := fun he =>
          hnotin (List.mem_map.mpr ⟨other, hother, he.trans hname.symm⟩)
        simp [hne]
      simp [hname, hself]
    · simpa [hname] using (ih hn).cons entry.2

theorem names_nodup_forget (hn : (st.handles.map (·.1)).Nodup) (name : String) :
    ((st.forget name).handles.map (·.1)).Nodup :=
  hn.sublist (List.filter_sublist.map _)

/-- Taking a name out of the table takes out the handle under it. -/
theorem allHandles_forget (hn : (st.handles.map (·.1)).Nodup) (name : String) :
    ((st.forget name).allHandles ++ (st.find? name).toList).Perm st.allHandles := by
  refine List.perm_iff_count.mpr fun hd => ?_
  have hcount := (perm_filter_find? st.handles hn name).count_eq hd
  simp only [allHandles, captured, forget, find?, List.count_append] at hcount ⊢
  omega

theorem alive_of_slots_boxes {st' : Store L ρ V} (hs : st'.slots = st.slots)
    (hb : st'.boxes = st.boxes) (x : Node) : st'.Alive x ↔ st.Alive x := by
  cases x <;> simp [Alive, hs, hb]

/-- The handle under a name can be taken out of the table and kept pending. -/
theorem Tally.forget (t : st.Tally pending) (name : String) :
    (st.forget name).Tally ((st.find? name).toList ++ pending) := by
  refine t.of_perm (names_nodup_forget t.names_nodup name) ?_ (fun x => ?_) rfl t.older
  · rw [← List.append_assoc]
    exact (allHandles_forget t.names_nodup name).append_right pending
  · exact alive_of_slots_boxes rfl rfl x

/-- A pending handle finds its place under a name, and the handle that was there goes. -/
theorem Tally.put (t : st.Tally [h]) (name : String) : (st.put name h).Tally [] := by
  refine Tally.release ((t.forget name).of_perm ?_ ?_ (fun x => ?_) rfl t.older)
  · have hnotin : name ∉ (st.forget name).handles.map (·.1) := by
      simp [Store.forget]
    simp only [List.map_append, List.map_singleton]
    refine List.nodup_append.mpr ⟨names_nodup_forget t.names_nodup name, by simp, ?_⟩
    intro n hn m hm he
    rw [he, List.mem_singleton.mp hm] at hn
    exact hnotin hn
  · refine List.perm_iff_count.mpr fun hd => ?_
    simp only [allHandles, captured, Store.forget, List.map_append, List.map_cons, List.map_nil,
      List.count_append]
    omega
  · exact alive_of_slots_boxes rfl rfl x

end table

section operations
variable {d : Definition L ρ V} {source : String}

theorem getElem?_append_one {β : Type _} (xs : List β) (x : β) (i : Nat) :
    (xs ++ [x])[i]? = if i = xs.length then some x else xs[i]? := by
  rcases Nat.lt_trichotomy i xs.length with hlt | rfl | hgt
  · rw [if_neg (Nat.ne_of_lt hlt), List.getElem?_append_left hlt]
  · simp
  · have hlen : (xs ++ [x]).length ≤ i := by
      rw [List.length_append]
      exact hgt
    rw [if_neg (Nat.ne_of_gt hgt), List.getElem?_eq_none (Nat.le_of_lt hgt),
      List.getElem?_eq_none hlen]

/-- A new slot comes with the handle that owns it. -/
theorem Tally.newSlot (t : st.Tally []) :
    ({ st with slots := st.slots ++ [.undefined] } : Store L ρ V).Tally
      [.owner st.slots.length] := by
  have hall : ({ st with slots := st.slots ++ [.undefined] } : Store L ρ V).allHandles =
      st.allHandles := by
    simp [allHandles, captured, Slot.held]
  have halive : ∀ x, ({ st with slots := st.slots ++ [.undefined] } : Store L ρ V).Alive x ↔
      st.Alive x ∨ x = .slot st.slots.length := by
    intro x
    cases x with
    | slot s =>
      by_cases hs : s = st.slots.length
      · simp [Alive, Slot.isAlive, hs]
      · simp [Alive, getElem?_append_one, hs]
    | box b => simp [Alive]
  have hfresh : Handle.owner st.slots.length ∉ st.allHandles := by
    intro hmem
    obtain ⟨slot, hs, _⟩ := (t.alive_iff_mem (.slot st.slots.length)).mpr
      (List.mem_append_left _ hmem)
    simp at hs
  constructor
  · exact t.names_nodup
  · intro s
    have hle := t.owner_count_le_one s
    have hzero := List.count_eq_zero.mpr hfresh
    rw [hall, List.count_append, List.count_singleton]
    rw [List.append_nil] at hle
    split
    · next he =>
      obtain rfl : st.slots.length = s := by simpa using he
      omega
    · exact hle
  · intro x
    rw [halive, t.alive_iff_mem, hall, List.append_nil, List.mem_append, List.mem_singleton]
    cases x <;> simp [Node.keeper]
  · intro h hh s hs
    rw [hall, List.mem_append, List.mem_singleton] at hh
    rw [List.length_append, List.length_singleton]
    rcases hh with hh | rfl
    · exact Nat.lt_succ_of_lt (t.declared h (List.mem_append_left _ hh) s hs)
    · obtain rfl : st.slots.length = s := Option.some.inj hs
      exact Nat.lt_succ_self _
  · exact t.older

/-- A new box takes what is pending for it and comes with the handle that keeps it. -/
theorem Tally.newBox (t : st.Tally d.held) :
    ({ st with boxes := st.boxes ++ [some d] } : Store L ρ V).Tally
      [.boxed st.boxes.length] := by
  have hall : ({ st with boxes := st.boxes ++ [some d] } : Store L ρ V).allHandles =
      st.allHandles ++ d.held := by
    simp [allHandles, captured, boxHeld]
  have halive : ∀ x, ({ st with boxes := st.boxes ++ [some d] } : Store L ρ V).Alive x ↔
      st.Alive x ∨ x = .box st.boxes.length := by
    intro x
    cases x with
    | slot s => simp [Alive]
    | box b =>
      by_cases hb : b = st.boxes.length
      · simp [Alive, hb]
      · simp [Alive, getElem?_append_one, hb]
  constructor
  · exact t.names_nodup
  · intro s
    have hle := t.owner_count_le_one s
    rw [hall, List.count_append, List.count_singleton]
    simpa using hle
  · intro x
    rw [halive, t.alive_iff_mem, hall, List.mem_append (t := [_]), List.mem_singleton]
    cases x <;> simp [Node.keeper]
  · intro h hh s hs
    rw [hall, List.mem_append (t := [_]), List.mem_singleton] at hh
    rcases hh with hh | rfl
    · exact t.declared h hh s hs
    · simp [slotOf] at hs
  · intro b b' hb
    by_cases hlast : b = st.boxes.length
    · -- What the new box holds was pending, and so was there before it.
      have hheld : Handle.boxed b' ∈ d.held := by simpa [holdings, hlast, boxHeld] using hb
      obtain ⟨d', hd'⟩ := (t.alive_iff_mem (.box b')).mpr (List.mem_append_right _ hheld)
      rw [hlast]
      exact (List.getElem?_eq_some_iff.mp hd').1
    · refine t.older b b' ?_
      simpa only [holdings, getElem?_append_one, if_neg hlast] using hb

theorem Tally.addBox (t : st.Tally d.held) (name : String) : (st.addBox name d).Tally [] :=
  t.newBox.put name

theorem Tally.declare (t : st.Tally []) (name : String) : (st.declare name).Tally [] :=
  t.newSlot.put name

theorem find?_mem (hf : st.find? name = some h) : h ∈ st.allHandles := by
  obtain ⟨entry, hentry, rfl⟩ := Option.map_eq_some_iff.mp hf
  exact List.mem_append_left _ (List.mem_map_of_mem (List.mem_of_find?_eq_some hentry))

theorem slotOf_copy (h : Handle) : slotOf h.copy = slotOf h := by
  cases h <;> rfl

/-- A copy of a handle can be made pending: it keeps nothing, or a box that is there. -/
theorem Tally.copy (t : st.Tally pending) (hh : h ∈ st.allHandles) :
    st.Tally (pending ++ [h.copy]) := by
  constructor
  · exact t.names_nodup
  · intro s
    have hne : h.copy ≠ .owner s := (Node.keeper_copy_slot h s).symm
    rw [← List.append_assoc, List.count_append, List.count_singleton, if_neg (by simpa using hne)]
    exact t.owner_count_le_one s
  · intro x
    rw [t.alive_iff_mem, ← List.append_assoc, List.mem_append (t := [_]), List.mem_singleton]
    constructor
    · exact Or.inl
    · rintro (hx | hx)
      · exact hx
      · -- Only the copy of a box keeps anything, and it is the same handle.
        cases x with
        | slot s => exact absurd hx (Node.keeper_copy_slot h s)
        | box b =>
          cases h with
          | owner s | borrowed s => simp [Node.keeper, Handle.copy] at hx
          | boxed b' => exact List.mem_append_left _ (hx ▸ hh)
  · intro hd hmem s hs
    rw [← List.append_assoc, List.mem_append (t := [_]), List.mem_singleton] at hmem
    rcases hmem with hmem | rfl
    · exact t.declared hd hmem s hs
    · rw [slotOf_copy] at hs
      exact t.declared h (List.mem_append_left _ hh) s hs
  · exact t.older

theorem Tally.clone {st' : Store L ρ V} (t : st.Tally []) (h : st.clone source name = some st') :
    st'.Tally [] := by
  obtain ⟨hd, hf, rfl⟩ := Option.map_eq_some_iff.mp h
  exact (t.copy (find?_mem hf)).put name

theorem Tally.box {st' : Store L ρ V} (t : st.Tally []) (h : st.box source name = some st') :
    st'.Tally [] := by
  obtain ⟨hd, hf, rfl⟩ := Option.map_eq_some_iff.mp h
  have hforget := t.forget source
  rw [hf] at hforget
  exact Tally.addBox hforget name

theorem exists_of_capture_copied {more : List Capture} {held : List Handle} {after : Store L ρ V}
    (h : st.capture (.copied name :: more) = some (held, after)) :
    ∃ hd rest, st.find? name = some hd ∧ held = hd.copy :: rest ∧
      st.capture more = some (rest, after) := by
  rw [Store.capture] at h
  split at h
  · next hd hf =>
    obtain ⟨⟨rest, last⟩, hmore, he⟩ := Option.map_eq_some_iff.mp h
    obtain ⟨rfl, rfl⟩ := Prod.mk.inj he
    exact ⟨hd, rest, hf, rfl, hmore⟩
  · simp at h

theorem exists_of_capture_moved {more : List Capture} {held : List Handle} {after : Store L ρ V}
    (h : st.capture (.moved name :: more) = some (held, after)) :
    ∃ hd rest, st.find? name = some hd ∧ held = hd :: rest ∧
      (st.forget name).capture more = some (rest, after) := by
  rw [Store.capture] at h
  split at h
  · next hd hf =>
    obtain ⟨⟨rest, last⟩, hmore, he⟩ := Option.map_eq_some_iff.mp h
    obtain ⟨rfl, rfl⟩ := Prod.mk.inj he
    exact ⟨hd, rest, hf, rfl, hmore⟩
  · simp at h

theorem capture_of_assemble {draft : Draft L ρ V} {after : Store L ρ V}
    (h : st.assemble draft = some (d, after)) :
    st.capture draft.captures = some (d.held, after) ∧
      d.grammar = draft.body.rename st.resolve := by
  obtain ⟨⟨held, last⟩, hcapture, he⟩ := Option.map_eq_some_iff.mp h
  obtain ⟨rfl, rfl⟩ := Prod.mk.inj he
  exact ⟨hcapture, rfl⟩

/-- What a draft takes hold of is pending until the draft is put somewhere. -/
theorem Tally.capture {captures : List Capture} {held : List Handle} {after : Store L ρ V}
    (t : st.Tally pending) (h : st.capture captures = some (held, after)) :
    after.Tally (pending ++ held) := by
  induction captures generalizing st pending held with
  | nil =>
    simp only [Store.capture, Option.some.injEq, Prod.mk.injEq] at h
    obtain ⟨rfl, rfl⟩ := h
    rwa [List.append_nil]
  | cons c captures ih =>
    cases c with
    | copied name =>
      obtain ⟨hd, more, hf, rfl, hmore⟩ := exists_of_capture_copied h
      rw [List.append_cons]
      exact ih (t.copy (find?_mem hf)) hmore
    | moved name =>
      obtain ⟨hd, more, hf, rfl, hmore⟩ := exists_of_capture_moved h
      have hforget := t.forget name
      rw [hf] at hforget
      have hmoved := ih hforget hmore
      refine hmoved.of_perm hmoved.names_nodup ?_ (fun _ => Iff.rfl) rfl hmoved.older
      refine List.Perm.append_left _ (List.perm_iff_count.mpr fun hd' => ?_)
      simp only [Option.toList_some, List.count_append, List.count_cons, List.count_nil]
      omega

theorem Tally.assemble {draft : Draft L ρ V} {after : Store L ρ V} (t : st.Tally [])
    (h : st.assemble draft = some (d, after)) : after.Tally d.held :=
  t.capture (capture_of_assemble h).1

theorem Tally.build {draft : Draft L ρ V} {st' : Store L ρ V} (t : st.Tally [])
    (h : st.build name draft = some st') : st'.Tally [] := by
  obtain ⟨⟨d, after⟩, hassemble, rfl⟩ := Option.map_eq_some_iff.mp h
  exact (t.assemble hassemble).addBox name

/-- A definition finds its place in an empty slot, or is let go of. -/
theorem Tally.fill (t : st.Tally d.held) (s : Nat) : (st.fill s d).2.Tally [] := by
  unfold Store.fill
  split
  · next hs =>
    refine t.of_perm t.names_nodup ?_ (fun x => ?_) (List.length_set ..) t.older
    · have hperm := perm_flatMap_set Slot.held st.slots s .undefined (.defined d) hs
      refine List.perm_iff_count.mpr fun hd => ?_
      have hcount := hperm.count_eq hd
      simp only [allHandles, captured, Slot.held, List.count_append, List.count_nil] at hcount ⊢
      omega
    · cases x with
      | slot s' =>
        by_cases he : s = s'
        · subst he
          have hlt : s < st.slots.length := (List.getElem?_eq_some_iff.mp hs).1
          simp [Alive, Slot.isAlive, hs, List.getElem?_set_self hlt]
        · simp [Alive, List.getElem?_set_ne he]
      | box b => exact Iff.rfl
  · exact t.release
  · exact t.release

theorem Tally.define {draft : Draft L ρ V} {m : Option Misuse} {st' : Store L ρ V}
    (t : st.Tally []) (h : st.define name draft = some (m, st')) : st'.Tally [] := by
  obtain ⟨⟨d, after⟩, hassemble, h⟩ := Option.bind_eq_some_iff.mp h
  have hafter := t.assemble hassemble
  dsimp only at h
  split at h
  · next s _ =>
    obtain rfl : (after.fill s d).2 = st' := congrArg Prod.snd (Option.some.inj h)
    exact hafter.fill s
  · simp at h

theorem Tally.drop {st' : Store L ρ V} (t : st.Tally []) (h : st.drop name = some st') :
    st'.Tally [] := by
  obtain ⟨hd, hf, rfl⟩ := Option.map_eq_some_iff.mp h
  have hforget := t.forget name
  rw [hf] at hforget
  exact Tally.release hforget

end operations

section commands
variable [Cursor κ α] {outside : Rules L ρ V}
  {read : {β : Type} → L β → κ → Outcome κ ParseError β} {budget : Nat}

theorem eq_some_of_map {a a' : Answer V κ} {o : Option (Store L ρ V)} {st' : Store L ρ V}
    (h : o.map (a, ·) = some (a', st')) : o = some st' := by
  obtain ⟨after, ho, he⟩ := Option.map_eq_some_iff.mp h
  obtain ⟨-, rfl⟩ := Prod.mk.inj he
  exact ho

/-- Every command keeps the tally, and parsing does not touch the store. -/
theorem Tally.perform {c : Command L ρ V κ} {a : Answer V κ} {st' : Store L ρ V} (t : st.Tally [])
    (h : st.perform outside read budget c = some (a, st')) : st'.Tally [] := by
  cases c with
  | declare name =>
    obtain ⟨-, rfl⟩ := Prod.mk.inj (Option.some.inj h)
    exact t.declare name
  | clone source name => exact t.clone (eq_some_of_map h)
  | box source name => exact t.box (eq_some_of_map h)
  | build name draft => exact t.build (eq_some_of_map h)
  | define name draft =>
    obtain ⟨⟨m, after⟩, hop, he⟩ := Option.map_eq_some_iff.mp h
    have hst : after = st' := by
      cases m <;> exact congrArg Prod.snd he
    exact hst ▸ t.define hop
  | drop name => exact t.drop (eq_some_of_map h)
  | parse name start =>
    obtain ⟨_, _, he⟩ := Option.map_eq_some_iff.mp h
    obtain ⟨-, rfl⟩ := Prod.mk.inj he
    exact t

theorem exists_of_performAll_cons {c : Command L ρ V κ} {cs : List (Command L ρ V κ)}
    {as : List (Answer V κ)} {st' : Store L ρ V}
    (h : st.performAll outside read budget (c :: cs) = some (as, st')) :
    ∃ a as' next, as = a :: as' ∧ st.perform outside read budget c = some (a, next) ∧
      next.performAll outside read budget cs = some (as', st') := by
  obtain ⟨⟨a, next⟩, hperform, h⟩ := Option.bind_eq_some_iff.mp h
  obtain ⟨⟨as', last⟩, hrest, he⟩ := Option.map_eq_some_iff.mp h
  obtain ⟨rfl, rfl⟩ := Prod.mk.inj he
  exact ⟨a, as', next, rfl, hperform, hrest⟩

theorem Tally.performAll {cs : List (Command L ρ V κ)} {as : List (Answer V κ)}
    {st' : Store L ρ V} (t : st.Tally [])
    (h : st.performAll outside read budget cs = some (as, st')) : st'.Tally [] := by
  induction cs generalizing st as with
  | nil =>
    obtain ⟨-, rfl⟩ := Prod.mk.inj (Option.some.inj h)
    exact t
  | cons c cs ih =>
    obtain ⟨a, as', next, -, hperform, hrest⟩ := exists_of_performAll_cons h
    exact ih (t.perform hperform) hrest

end commands

end Store
end Descent.Forward
