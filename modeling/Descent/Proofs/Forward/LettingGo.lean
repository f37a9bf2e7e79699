import Descent.Proofs.Forward.Ownership

/-!
# The order of letting go

When several handles are let go of, and then what they kept, and so on, one may ask whether it
matters which one is next. It does not: what is left in the end can be told from the store alone. A
node goes away exactly if the table does not keep it and no node that stays does.
-/
namespace Descent.Forward

open Relation (ReflTransGen)

variable {L : Type → Type} {ρ V : Type}

namespace Store
variable {st st' last : Store L ρ V} {pending pending' rest : List Handle} {x y : Node}
  {h : Handle}

section contents

/-- The node is found as it was. -/
def SameAt (st st' : Store L ρ V) : Node → Prop
  | .slot s => st'.slots[s]? = st.slots[s]?
  | .box b => st'.boxes[b]? = st.boxes[b]?

/-- The node was there once and has gone. -/
def Gone (st : Store L ρ V) : Node → Prop
  | .slot s => st.slots[s]? = some .dropped
  | .box b => st.boxes[b]? = some none

theorem SameAt.trans {st'' : Store L ρ V} (h : st.SameAt st' x) (h' : st'.SameAt st'' x) :
    st.SameAt st'' x := by
  cases x <;> exact Eq.trans h' h

theorem Gone.of_sameAt (h : st.SameAt st' x) (hx : st.Gone x) : st'.Gone x := by
  cases x <;> exact Eq.trans h hx

theorem gone_clear (hx : st.Alive x) : (st.clear x).Gone x := by
  cases x with
  | slot s =>
    obtain ⟨slot, hs, -⟩ := hx
    exact List.getElem?_set_self (List.getElem?_eq_some_iff.mp hs).1
  | box b =>
    obtain ⟨d, hb⟩ := hx
    exact List.getElem?_set_self (List.getElem?_eq_some_iff.mp hb).1

theorem sameAt_clear (st : Store L ρ V) (hne : y ≠ x) : st.SameAt (st.clear x) y := by
  cases x <;> cases y <;>
    simp_all [SameAt, clear, List.getElem?_set_ne, Ne.symm]

end contents

section steps

/-- Lets go of any one of the pending handles. It keeps nothing, or a box that another handle keeps
as well; or else its node goes, and what the node has held is pending from then on. -/
inductive LetsGo : Store L ρ V × List Handle → Store L ρ V × List Handle → Prop
  | kept {st : Store L ρ V} {pending rest : List Handle} {h : Handle}
    (hnext : pending.Perm (h :: rest))
    (hkept : ∀ x : Node, h = x.keeper → x.keeper ∈ st.allHandles ++ rest) :
    LetsGo (st, pending) (st, rest)
  | last {st : Store L ρ V} {pending rest : List Handle} {x : Node}
    (hnext : pending.Perm (x.keeper :: rest)) (hlast : x.keeper ∉ st.allHandles ++ rest) :
    LetsGo (st, pending) (st.clear x, rest ++ st.holdings x)

theorem Tally.of_pending_perm (t : st.Tally pending) (hperm : pending.Perm pending') :
    st.Tally pending' :=
  t.of_perm t.names_nodup (hperm.symm.append_left _) (fun _ => Iff.rfl) rfl t.older

theorem Tally.letsGo (t : st.Tally pending) (hstep : LetsGo (st, pending) (st', pending')) :
    st'.Tally pending' := by
  cases hstep with
  | kept hnext hkept => exact (t.of_pending_perm hnext).forget_pending hkept
  | last hnext hlast => exact (t.of_pending_perm hnext).clear hlast

/-- To take the handles as they come is one way to let go of all of them. -/
theorem Tally.letsGo_release (t : st.Tally pending) :
    ReflTransGen LetsGo (st, pending) (st.release pending, []) := by
  fun_induction Store.release st pending with
  | case1 st => exact .refl
  | case2 st s hs ih =>
    have hstep : LetsGo (st, .borrowed s :: hs) (st, hs) :=
      .kept (.refl _) fun x hx => by cases x <;> simp [Node.keeper] at hx
    exact .head hstep (ih (t.letsGo hstep))
  | case3 st s hs slot hslot ih =>
    have hheld : st.holdings (.slot s) = slot.held := by simp [holdings, hslot]
    have hstep : LetsGo (st, .owner s :: hs) (st.clear (.slot s), hs ++ slot.held) :=
      hheld ▸ .last (x := .slot s) (.refl _) t.owner_notMem
    exact .head hstep (ih (t.letsGo hstep))
  | case4 st s hs hslot ih =>
    obtain ⟨slot, hs, _⟩ := (t.alive_iff_mem (.slot s)).mpr (by simp [Node.keeper])
    simp [hs] at hslot
  | case5 st b hs box hbox hmem ih =>
    have hstep : LetsGo (st, .boxed b :: hs) (st, hs) :=
      .kept (.refl _) fun x hx => hx ▸ List.contains_iff_mem.mp hmem
    exact .head hstep (ih (t.letsGo hstep))
  | case6 st b hs box hbox hmem ih =>
    have hheld : st.holdings (.box b) = boxHeld box := by simp [holdings, hbox]
    have hlast : (Node.box b).keeper ∉ st.allHandles ++ hs := fun hm =>
      hmem (List.contains_iff_mem.mpr hm)
    have hstep : LetsGo (st, .boxed b :: hs) (st.clear (.box b), hs ++ boxHeld box) :=
      hheld ▸ .last (x := .box b) (.refl _) hlast
    exact .head hstep (ih (t.letsGo hstep))
  | case7 st b hs hbox ih =>
    obtain ⟨d, hb⟩ := (t.alive_iff_mem (.box b)).mpr (by simp [Node.keeper])
    simp [hb] at hbox

end steps

section end_state

/-- The table does not keep the node, and no node that stays does. -/
inductive Goes (st : Store L ρ V) : Node → Prop
  | intro {x : Node} (halive : st.Alive x) (htable : ¬ st.InTable x)
    (hholders : ∀ y, st.HeldBy x y → Goes st y) : Goes st x

/-- What is left of a store when everything has gone that goes. -/
structure Settles (st last : Store L ρ V) : Prop where
  handles_eq : last.handles = st.handles
  gone : ∀ x, st.Goes x → last.Gone x
  stays : ∀ x, ¬ st.Goes x → st.SameAt last x

theorem Settles.unique (h : st.Settles last) (h' : st.Settles st') : last = st' := by
  have hslots : last.slots = st'.slots := by
    refine List.ext_getElem? fun s => ?_
    by_cases hs : st.Goes (.slot s)
    · exact Eq.trans (h.gone _ hs) (h'.gone _ hs).symm
    · exact Eq.trans (h.stays _ hs) (h'.stays _ hs).symm
  have hboxes : last.boxes = st'.boxes := by
    refine List.ext_getElem? fun b => ?_
    by_cases hb : st.Goes (.box b)
    · exact Eq.trans (h.gone _ hb) (h'.gone _ hb).symm
    · exact Eq.trans (h.stays _ hb) (h'.stays _ hb).symm
  cases last
  cases st'
  obtain rfl := h.handles_eq.trans h'.handles_eq.symm
  obtain rfl := hslots
  obtain rfl := hboxes
  rfl

/-- A node goes only on account of a pending handle, which keeps it or what holds it. -/
theorem Tally.pending_of_goes (t : st.Tally pending) (hx : st.Goes x) :
    ∃ y, ReflTransGen st.HeldBy x y ∧ y.keeper ∈ pending ∧ ¬ st.InTable y := by
  induction hx with
  | @intro x halive htable _ ih =>
    rw [t.alive_iff_mem, allHandles, List.mem_append, List.mem_append, mem_captured_iff] at halive
    rcases halive with (hmem | ⟨y, hy⟩) | hpending
    · exact absurd hmem htable
    · obtain ⟨z, hz, hrest⟩ := ih y hy
      exact ⟨z, .head hy hz, hrest⟩
    · exact ⟨x, .refl, hpending, htable⟩

theorem Tally.settles_self (t : st.Tally []) : st.Settles st where
  handles_eq := rfl
  gone x hx := by
    obtain ⟨y, -, hpending, -⟩ := t.pending_of_goes hx
    simp at hpending
  stays x _ := by cases x <;> rfl

theorem goes_of_notMem (hx : st.Alive x) (hlast : x.keeper ∉ st.allHandles) : st.Goes x := by
  refine .intro hx (fun htable => hlast (List.mem_append_left _ htable)) fun z hz => ?_
  exact absurd (List.mem_append_right _ (mem_captured_iff.mpr ⟨z, hz⟩)) hlast

/-- Once a node has gone, the same other nodes go as before. -/
theorem goes_clear_iff (hgoes : st.Goes x) (hne : y ≠ x) :
    (st.clear x).Goes y ↔ st.Goes y := by
  constructor
  · intro hy
    induction hy with
    | @intro y halive htable _ ih =>
      rw [InTable, handles_clear] at htable
      refine .intro (alive_clear.mp halive).1 htable fun z hz => ?_
      by_cases hzx : z = x
      · exact hzx ▸ hgoes
      · refine ih z ?_ hzx
        rw [HeldBy, holdings_clear, if_neg hzx]
        exact hz
  · intro hy
    induction hy with
    | @intro y halive htable _ ih =>
      refine .intro (alive_clear.mpr ⟨halive, hne⟩) ?_ fun z hz => ?_
      · rwa [InTable, handles_clear]
      · rw [HeldBy, holdings_clear] at hz
        split at hz
        · simp at hz
        · next hzx => exact ih z hz hzx

/-- What is left in the end stays the same with every handle that is let go of. -/
theorem Tally.settles_of_step (t : st.Tally pending)
    (hstep : LetsGo (st, pending) (st', pending')) (hs : st'.Settles last) : st.Settles last := by
  cases hstep with
  | kept => exact hs
  | @last _ _ rest x hnext hlast =>
    have hx : st.Alive x :=
      (t.alive_iff_mem x).mpr (List.mem_append_right _ (hnext.mem_iff.mpr List.mem_cons_self))
    have hgone : ¬ (st.clear x).Goes x := by
      rintro ⟨halive, -, -⟩
      exact (alive_clear.mp halive).2 rfl
    have hgoes : st.Goes x := goes_of_notMem hx fun hm => hlast (List.mem_append_left _ hm)
    constructor
    · exact hs.handles_eq.trans (handles_clear st x)
    · intro y hy
      by_cases hne : y = x
      · -- The node that has just gone stays gone.
        exact hne ▸ (gone_clear hx).of_sameAt (hs.stays x hgone)
      · exact hs.gone y ((goes_clear_iff hgoes hne).mpr hy)
    · intro y hy
      by_cases hne : y = x
      · exact absurd (hne ▸ hgoes) hy
      · exact (sameAt_clear st hne).trans (hs.stays y fun h => hy ((goes_clear_iff hgoes hne).mp h))

/-- In whatever order handles are let go of, what is left in the end is told by the store alone. -/
theorem Tally.settles_of_letsGo (t : st.Tally pending)
    (hrun : ReflTransGen LetsGo (st, pending) (last, [])) : st.Settles last := by
  suffices hall : ∀ before : Store L ρ V × List Handle,
      ReflTransGen LetsGo before (last, []) → before.1.Tally before.2 → before.1.Settles last from
    hall (st, pending) hrun t
  intro before hbefore
  induction hbefore using ReflTransGen.head_induction_on with
  | refl => exact fun t => t.settles_self
  | head hstep _ ih => exact fun t => t.settles_of_step hstep (ih (t.letsGo hstep))

theorem Tally.settles_release (t : st.Tally pending) : st.Settles (st.release pending) :=
  t.settles_of_letsGo t.letsGo_release

end end_state

end Store
end Descent.Forward
