import Mathlib.Data.Fintype.Card
import Mathlib.Data.Set.Finite.Lattice
import Mathlib.Logic.Relation
import Mathlib.Order.WellFounded
import Descent.Atom.Token
import Descent.Cursor.Elements
import Descent.Leaf
import Descent.Proofs.Forward.Tally

/-!
# Who keeps a definition

From a slot one can follow what holds its owner, and what keeps the holder, and so on. A slot is
there exactly if this leads to a handle in the table, or round in a circle. Boxes hold only older
boxes, so that a circle has to pass through a slot whose owner was moved into what its own
definition holds: nothing else can outlive the handles of a program.
-/
namespace Descent.Forward

open Relation (ReflTransGen TransGen)

variable {L : Type → Type} {ρ V κ α : Type}

namespace Store
variable {st st' : Store L ρ V} {pending : List Handle} {x y z : Node} {h : Handle}
  {name : String}

/-- The handle that keeps `x` is among those that `y` holds. -/
def HeldBy (st : Store L ρ V) (x y : Node) : Prop :=
  x.keeper ∈ st.holdings y

/-- The table has a handle that keeps the node. -/
def InTable (st : Store L ρ V) (x : Node) : Prop :=
  x.keeper ∈ st.handles.map (·.2)

/-- What holds the node is kept, in the end, by a handle in the table. -/
def KeptByTable (st : Store L ρ V) (x : Node) : Prop :=
  ∃ y, ReflTransGen st.HeldBy x y ∧ st.InTable y

/-- What holds the node is kept, in the end, by itself. -/
def KeptByCycle (st : Store L ρ V) (x : Node) : Prop :=
  ∃ y, ReflTransGen st.HeldBy x y ∧ TransGen st.HeldBy y y

/-- A call of a slot reports that the slot is gone exactly if it is. -/
theorem rules_slot_dropped_iff (st : Store L ρ V) (outside : Rules L ρ V) (s : Nat) :
    st.rules outside (.slot s) = .error .droppedForward ↔ ¬ st.Alive (.slot s) := by
  rcases hs : st.slots[s]? with _ | _ | d | _ <;> simp [rules, Alive, hs, Slot.isAlive]

theorem alive_of_mem_holdings (hm : h ∈ st.holdings y) : st.Alive y := by
  cases y with
  | slot s =>
    cases hs : st.slots[s]? with
    | none => simp [holdings, hs] at hm
    | some slot =>
      refine ⟨slot, hs, ?_⟩
      cases slot with
      | dropped => simp [holdings, hs, Slot.held] at hm
      | undefined | defined d => rfl
  | box b =>
    rcases hb : st.boxes[b]? with _ | _ | d
    · simp [holdings, hb] at hm
    · simp [holdings, hb, boxHeld] at hm
    · exact ⟨d, hb⟩

theorem mem_captured_iff : h ∈ st.captured ↔ ∃ y, h ∈ st.holdings y := by
  simp only [captured, List.mem_append, List.mem_flatMap]
  constructor
  · rintro (⟨slot, hslot, hm⟩ | ⟨box, hbox, hm⟩)
    · obtain ⟨s, hs⟩ := List.mem_iff_getElem?.mp hslot
      exact ⟨.slot s, by simpa [holdings, hs] using hm⟩
    · obtain ⟨b, hb⟩ := List.mem_iff_getElem?.mp hbox
      exact ⟨.box b, by simpa [holdings, hb] using hm⟩
  · rintro ⟨s | b, hm⟩
    · obtain ⟨slot, hs, _⟩ := alive_of_mem_holdings hm
      exact Or.inl ⟨slot, List.mem_of_getElem? hs, by simpa [holdings, hs] using hm⟩
    · obtain ⟨d, hb⟩ := alive_of_mem_holdings hm
      exact Or.inr ⟨some d, List.mem_of_getElem? hb, by simpa [holdings, hb] using hm⟩

theorem Tally.alive_iff (t : st.Tally []) :
    st.Alive x ↔ st.InTable x ∨ ∃ y, st.HeldBy x y := by
  rw [t.alive_iff_mem, List.append_nil, allHandles, List.mem_append, mem_captured_iff]
  rfl

section graph

theorem finite_alive (st : Store L ρ V) : {x | st.Alive x}.Finite := by
  have hslots := (Set.finite_lt_nat st.slots.length).image Node.slot
  have hboxes := (Set.finite_lt_nat st.boxes.length).image Node.box
  refine (hslots.union hboxes).subset fun x hx => ?_
  cases x with
  | slot s =>
    obtain ⟨slot, hs, _⟩ := hx
    exact Or.inl ⟨s, (List.getElem?_eq_some_iff.mp hs).1, rfl⟩
  | box b =>
    obtain ⟨d, hb⟩ := hx
    exact Or.inr ⟨b, (List.getElem?_eq_some_iff.mp hb).1, rfl⟩

/-- Following the holders leads to the table or to a cycle, since there are only finitely many. -/
theorem Tally.kept_of_alive (t : st.Tally []) (hx : st.Alive x) :
    st.KeptByTable x ∨ st.KeptByCycle x := by
  by_contra hkept
  obtain ⟨htable, hcycle⟩ := not_or.mp hkept
  have halive : ∀ y, ReflTransGen st.HeldBy x y → st.Alive y := by
    intro y hy
    rcases ReflTransGen.cases_tail hy with rfl | ⟨z, _, hz⟩
    · exact hx
    · exact alive_of_mem_holdings hz
  -- A holder that is farthest from `x` would have to be held again.
  let later (y z : {y // ReflTransGen st.HeldBy x y}) : Prop := TransGen st.HeldBy z.1 y.1
  have hfinite : Finite {y // ReflTransGen st.HeldBy x y} :=
    (st.finite_alive.subset halive).to_subtype
  have htrans : IsTrans _ later := ⟨fun a b c hab hbc => hbc.trans hab⟩
  have hirrefl : Std.Irrefl later := ⟨fun y hy => hcycle ⟨y.1, y.2, hy⟩⟩
  have hwf : WellFounded later := Finite.wellFounded_of_trans_of_irrefl later
  obtain ⟨y, -, hlast⟩ := hwf.has_min Set.univ ⟨⟨x, ReflTransGen.refl⟩, trivial⟩
  rcases t.alive_iff.mp (halive y.1 y.2) with hy | ⟨z, hz⟩
  · exact htable ⟨y.1, y.2, hy⟩
  · exact hlast ⟨z, y.2.tail hz⟩ trivial (TransGen.single hz)

theorem Tally.alive_of_kept (t : st.Tally []) (hx : st.KeptByTable x ∨ st.KeptByCycle x) :
    st.Alive x := by
  have hfirst : ∀ y, ReflTransGen st.HeldBy x y → st.Alive y → st.Alive x := by
    intro y hy halive
    rcases ReflTransGen.cases_head hy with rfl | ⟨z, hz, _⟩
    · exact halive
    · exact t.alive_iff.mpr (Or.inr ⟨z, hz⟩)
  rcases hx with ⟨y, hxy, hy⟩ | ⟨y, hxy, hy⟩
  · exact hfirst y hxy (t.alive_iff.mpr (Or.inl hy))
  · obtain ⟨z, hz, _⟩ := TransGen.head'_iff.mp hy
    exact hfirst y hxy (t.alive_iff.mpr (Or.inr ⟨z, hz⟩))

/-- Following the holders of a box leads through a slot, or to a younger box. -/
theorem Tally.slot_or_younger (t : st.Tally pending) {b : Nat} (h : TransGen st.HeldBy (.box b) z) :
    (∃ s, TransGen st.HeldBy (.box b) (.slot s) ∧ ReflTransGen st.HeldBy (.slot s) z) ∨
      ∃ b', z = .box b' ∧ b < b' := by
  induction h with
  | @single z hstep =>
    cases z with
    | slot s => exact Or.inl ⟨s, TransGen.single hstep, ReflTransGen.refl⟩
    | box b' => exact Or.inr ⟨b', rfl, t.older b' b hstep⟩
  | @tail y z hpath hstep ih =>
    rcases ih with ⟨s, hbs, hsy⟩ | ⟨b', rfl, hlt⟩
    · exact Or.inl ⟨s, hbs, hsy.tail hstep⟩
    · cases z with
      | slot s => exact Or.inl ⟨s, hpath.tail hstep, ReflTransGen.refl⟩
      | box b'' => exact Or.inr ⟨b'', rfl, Nat.lt_trans hlt (t.older b'' b' hstep)⟩

/-- Every cycle of holders passes through a slot. -/
theorem Tally.slot_of_cycle (t : st.Tally pending) (hx : st.KeptByCycle x) :
    ∃ s, ReflTransGen st.HeldBy x (.slot s) ∧ TransGen st.HeldBy (.slot s) (.slot s) := by
  obtain ⟨y, hxy, hy⟩ := hx
  cases y with
  | slot s => exact ⟨s, hxy, hy⟩
  | box b =>
    rcases t.slot_or_younger hy with ⟨s, hbs, hsb⟩ | ⟨b', he, hlt⟩
    · exact ⟨s, hxy.trans hbs.to_reflTransGen, TransGen.trans_right hsb hbs⟩
    · obtain rfl := Node.box.inj he
      exact absurd hlt (Nat.lt_irrefl _)

end graph

section letting_go

/-- What letting go of handles does to the rest of a store: the table stays, and nodes only go away
or lose what they hold. -/
structure Shrinks (st st' : Store L ρ V) : Prop where
  handles_eq : st'.handles = st.handles
  holdings_subset : ∀ y, st'.holdings y ⊆ st.holdings y
  alive_of_alive : ∀ y, st'.Alive y → st.Alive y

theorem Shrinks.refl (st : Store L ρ V) : Shrinks st st :=
  ⟨rfl, fun _ _ hm => hm, fun _ hy => hy⟩

theorem Shrinks.trans {st'' : Store L ρ V} (h : Shrinks st st') (h' : Shrinks st' st'') :
    Shrinks st st'' where
  handles_eq := h'.handles_eq.trans h.handles_eq
  holdings_subset y _ hm := h.holdings_subset y (h'.holdings_subset y hm)
  alive_of_alive y hy := h.alive_of_alive y (h'.alive_of_alive y hy)

theorem shrinks_clear (st : Store L ρ V) (x : Node) : Shrinks st (st.clear x) where
  handles_eq := handles_clear st x
  holdings_subset := holdings_clear_subset st x
  alive_of_alive _ hy := (alive_clear.mp hy).1

theorem shrinks_release (st : Store L ρ V) (pending : List Handle) :
    Shrinks st (st.release pending) := by
  fun_induction Store.release st pending with
  | case1 st => exact Shrinks.refl st
  | case2 st s hs ih => exact ih
  | case3 st s hs slot hslot ih => exact (shrinks_clear st (.slot s)).trans ih
  | case4 st s hs hslot ih => exact ih
  | case5 st b hs box hbox hmem ih => exact ih
  | case6 st b hs box hbox hmem ih => exact (shrinks_clear st (.box b)).trans ih
  | case7 st b hs hbox ih => exact ih

theorem Shrinks.reflTransGen (h : Shrinks st st') (hxy : ReflTransGen st'.HeldBy x y) :
    ReflTransGen st.HeldBy x y :=
  ReflTransGen.mono (fun _ z hz => h.holdings_subset z hz) _ _ hxy

theorem Shrinks.transGen (h : Shrinks st st') (hxy : TransGen st'.HeldBy x y) :
    TransGen st.HeldBy x y :=
  TransGen.mono (fun _ z hz => h.holdings_subset z hz) _ _ hxy

/-- An owner that is let go of takes its slot with it. -/
theorem not_alive_release_owner (st : Store L ρ V) (s : Nat) (hs : List Handle) :
    ¬ (st.release (.owner s :: hs)).Alive (.slot s) := by
  intro hs'
  rw [Store.release] at hs'
  split at hs'
  · have hclear := (shrinks_release _ _).alive_of_alive _ hs'
    exact (alive_clear (x := .slot s).mp hclear).2 rfl
  · next hnone =>
    obtain ⟨slot, hslot, _⟩ := (shrinks_release _ _).alive_of_alive _ hs'
    simp [hnone] at hslot

/-- A handle is found under the name that it was put under. -/
theorem find?_put (st : Store L ρ V) (name : String) (h : Handle) :
    (st.put name h).find? name = some h := by
  have hshrinks := shrinks_release
    { st.forget name with handles := (st.forget name).handles ++ [(name, h)] }
    (st.find? name).toList
  have hnone : (st.forget name).handles.find? (·.1 == name) = none := by
    simp [forget, List.find?_eq_none]
  rw [find?, put, hshrinks.handles_eq, List.find?_append, hnone]
  simp

end letting_go

/-- Who owns the slots of a store, and how long they stay. -/
structure Ownership (st : Store L ρ V) : Prop where
  /-- No two handles own one slot, wherever they are. -/
  owner_count_le_one : ∀ s, st.allHandles.count (.owner s) ≤ 1
  /-- A copy that is put under a name owns nothing. -/
  copy_ne_owner : ∀ source name st', st.clone source name = some st' →
    ∃ h, st'.find? name = some h ∧ ∀ s, h ≠ .owner s
  /-- A copy that a draft takes owns nothing. -/
  captured_copy_ne_owner : ∀ name more held after,
    st.capture (.copied name :: more) = some (held, after) →
      ∃ h rest, held = h :: rest ∧ ∀ s, h ≠ .owner s
  /-- A call of a slot reports that the slot is gone exactly if it is. -/
  dropped_iff : ∀ (outside : Rules L ρ V) (s : Nat),
    st.rules outside (.slot s) = .error .droppedForward ↔ ¬ st.Alive (.slot s)
  /-- A slot is there exactly as long as its owner. -/
  alive_iff_owner : ∀ s, st.Alive (.slot s) ↔ Handle.owner s ∈ st.allHandles
  /-- A slot is there exactly if following the holders of its owner leads to the table or round. -/
  alive_iff_kept : ∀ s, st.Alive (.slot s) ↔ st.KeptByTable (.slot s) ∨ st.KeptByCycle (.slot s)
  /-- Dropping an owner that the table has frees its slot. -/
  freed_of_drop : ∀ name s st', st.find? name = some (.owner s) → st.drop name = some st' →
    ¬ st'.Alive (.slot s)
  /-- So does putting another handle under its name. -/
  freed_of_put : ∀ name s h, st.find? name = some (.owner s) → ¬ (st.put name h).Alive (.slot s)
  /-- If no definition holds an owner, by itself or through what it holds, then dropping the last
  handle that keeps the owner of a slot frees the slot. -/
  freed_of_drop_last : (∀ s t, ¬ TransGen st.HeldBy (.slot s) (.slot t)) →
    ∀ name s st', st.drop name = some st' →
      (∀ other ∈ st.handles, other.1 ≠ name →
        ∀ y, other.2 = y.keeper → ¬ ReflTransGen st.HeldBy (.slot s) y) →
      ¬ st'.Alive (.slot s)
  /-- A slot that no handle in the table keeps is kept by a definition that holds, by itself or
  through what it holds, the owner of its own slot. -/
  outlives_by_cycle : ∀ s, st.Alive (.slot s) → ¬ st.KeptByTable (.slot s) →
    ∃ t, ReflTransGen st.HeldBy (.slot s) (.slot t) ∧ TransGen st.HeldBy (.slot t) (.slot t)

theorem Tally.not_alive_of_drop_last (t : st.Tally [])
    (hnone : ∀ s t, ¬ TransGen st.HeldBy (.slot s) (.slot t)) {s : Nat}
    (hdrop : st.drop name = some st')
    (hothers : ∀ other ∈ st.handles, other.1 ≠ name →
      ∀ y, other.2 = y.keeper → ¬ ReflTransGen st.HeldBy (.slot s) y) :
    ¬ st'.Alive (.slot s) := by
  intro halive
  have t' := t.drop hdrop
  obtain ⟨h, -, rfl⟩ := Option.map_eq_some_iff.mp hdrop
  have hshrinks := shrinks_release (st.forget name) [h]
  rcases t'.kept_of_alive halive with ⟨y, hsy, hy⟩ | hcycle
  · -- The handle of the table that keeps the slot was there before, under another name.
    rw [InTable, hshrinks.handles_eq] at hy
    obtain ⟨other, hother, hkeeper⟩ := List.mem_map.mp hy
    obtain ⟨hmem, hne⟩ := List.mem_filter.mp hother
    exact hothers other hmem (by simpa using hne) y hkeeper (hshrinks.reflTransGen hsy)
  · obtain ⟨u, -, hu⟩ := t'.slot_of_cycle hcycle
    exact hnone u u (hshrinks.transGen hu)

theorem Tally.ownership (t : st.Tally []) : st.Ownership where
  owner_count_le_one s := by simpa using t.owner_count_le_one s
  copy_ne_owner source name st' h := by
    obtain ⟨hd, -, rfl⟩ := Option.map_eq_some_iff.mp h
    exact ⟨hd.copy, find?_put st name hd.copy, fun s => (Node.keeper_copy_slot hd s).symm⟩
  captured_copy_ne_owner name more held after h := by
    obtain ⟨hd, rest, -, rfl, -⟩ := exists_of_capture_copied h
    exact ⟨hd.copy, rest, rfl, fun s => (Node.keeper_copy_slot hd s).symm⟩
  dropped_iff outside s := st.rules_slot_dropped_iff outside s
  alive_iff_owner s := by
    have h := t.alive_iff_mem (.slot s)
    rwa [List.append_nil] at h
  alive_iff_kept s := ⟨t.kept_of_alive, t.alive_of_kept⟩
  freed_of_drop name s st' hf h := by
    obtain ⟨hd, hf', rfl⟩ := Option.map_eq_some_iff.mp h
    obtain rfl : Handle.owner s = hd := Option.some.inj (hf.symm.trans hf')
    exact not_alive_release_owner (st.forget name) s []
  freed_of_put name s h hf := by
    rw [Store.put, hf]
    exact not_alive_release_owner _ s []
  freed_of_drop_last hnone name s st' h hothers := t.not_alive_of_drop_last hnone h hothers
  outlives_by_cycle s halive htable :=
    t.slot_of_cycle ((t.kept_of_alive halive).resolve_left htable)

/-- Whatever a program does with its handles, every slot has at most one owner, and is there exactly
as long as the owner is: until the table does not lead to it any more, unless owners that were moved
into definitions hold each other in a circle. -/
theorem performAll_ownership [Cursor κ α] (outside : Rules L ρ V)
    (read : {β : Type} → L β → κ → Outcome κ ParseError β) (budget : Nat)
    (commands : List (Command L ρ V κ)) (answers : List (Answer V κ)) (st : Store L ρ V)
    (h : ({} : Store L ρ V).performAll outside read budget commands = some (answers, st)) :
    st.Ownership :=
  (tally_empty.performAll h).ownership

/-- A definition that was given its own owner stays without a handle in the table; one whose owner
was boxed stays with the box. -/
theorem performAll_ownership_cycle :
    let commands : List (Command (Leaf Token) Empty Token (ElementCursor Token)) :=
      [.declare "loop", .clone "loop" "inner",
        .define "inner" ⟨[.moved "loop"], .call (.inr "loop")⟩, .drop "inner",
        .declare "list", .define "list" ⟨[.copied "list"], .call (.inr "list")⟩,
        .box "list" "shared"]
    let st : Store (Leaf Token) Empty Token :=
      { handles := [("shared", .boxed 0)]
        slots := [.defined ⟨.call (.slot 0), [.owner 0]⟩, .defined ⟨.call (.slot 1), [.borrowed 1]⟩]
        boxes := [some ⟨.call (.slot 1), [.owner 1]⟩] }
    ({} : Store (Leaf Token) Empty Token).performAll (fun r => r.elim) Leaf.read 0 commands =
        some ([.done, .done, .defined, .done, .done, .defined, .done], st) ∧
      st.Ownership := by
  intro commands st
  have hrun : ({} : Store (Leaf Token) Empty Token).performAll (fun r => r.elim) Leaf.read 0
      commands = some ([.done, .done, .defined, .done, .done, .defined, .done], st) := by
    simp [commands, st, performAll, perform, declare, clone, define, drop, box, addBox, assemble,
      capture, fill, put, find?, forget, release, resolve, Handle.copy, Handle.target, slotOf,
      Grammar.rename]
  exact ⟨hrun, performAll_ownership _ _ 0 commands _ st hrun⟩

end Store
end Descent.Forward
