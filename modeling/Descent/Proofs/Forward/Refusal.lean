import Descent.Proofs.Forward.Growth
import Descent.Proofs.Forward.LettingGo

/-!
# Definitions that are refused

A definition that comes too late is refused, and what it had taken hold of is let go of. All this
comes to is the loss of the grammar: the store is left as if the grammar had been built into a box
and the box had been dropped at once. The number of that box is the one thing that is used up, and
nothing that a program can see depends on it.
-/
namespace Descent.Forward

open Relation (ReflTransGen)

variable {L : Type → Type} {ρ V κ α : Type}

namespace Store
variable {st after refused : Store L ρ V} {held pending : List Handle} {x : Node} {h : Handle}
  {d : Definition L ρ V} {draft : Draft L ρ V} {name : String}

section taking

/-- The draft takes the handle that keeps the node out of the table, or one that keeps what holds
the node, and so on. -/
def MovedInto (st : Store L ρ V) (draft : Draft L ρ V) (x : Node) : Prop :=
  ∃ name y, .moved name ∈ draft.captures ∧ st.find? name = some y.keeper ∧
    ReflTransGen st.HeldBy x y

theorem inTable_of_find? (hf : st.find? name = some x.keeper) : st.InTable x := by
  obtain ⟨entry, hentry, he⟩ := Option.map_eq_some_iff.mp hf
  rw [InTable, ← he]
  exact List.mem_map_of_mem (List.mem_of_find?_eq_some hentry)

/-- A handle stays in the table unless it is moved. -/
theorem find?_of_capture {captures : List Capture} (hc : st.capture captures = some (held, after))
    (hf : st.find? name = some h) (hstays : .moved name ∉ captures) :
    after.find? name = some h := by
  induction captures generalizing st held with
  | nil =>
    obtain ⟨-, rfl⟩ := Prod.mk.inj (Option.some.inj hc)
    exact hf
  | cons c captures ih =>
    obtain ⟨hne, hlater⟩ := not_or.mp (mt List.mem_cons.mpr hstays)
    cases c with
    | copied source =>
      obtain ⟨_, _, -, -, hmore⟩ := exists_of_capture_copied hc
      exact ih hmore hf hlater
    | moved source =>
      obtain ⟨_, _, -, -, hmore⟩ := exists_of_capture_moved hc
      refine ih hmore ?_ hlater
      rw [find?_forget, if_neg fun heq => hne (congrArg _ heq)]
      exact hf

/-- What a draft holds and the table does not was moved. -/
theorem moved_of_capture {captures : List Capture} (hc : st.capture captures = some (held, after))
    (hx : x.keeper ∈ held) (htable : ¬ after.InTable x) :
    ∃ name, .moved name ∈ captures ∧ st.find? name = some x.keeper := by
  induction captures generalizing st held with
  | nil =>
    obtain ⟨rfl, -⟩ := Prod.mk.inj (Option.some.inj hc)
    simp at hx
  | cons c captures ih =>
    cases c with
    | copied source =>
      obtain ⟨hd, more, hf, rfl, hmore⟩ := exists_of_capture_copied hc
      rcases List.mem_cons.mp hx with hcopy | hx
      · -- Only a box is kept by a copy, and the handle that was copied keeps it too.
        have hself : hd = x.keeper := by
          cases x with
          | slot s => exact absurd hcopy (Node.keeper_copy_slot hd s)
          | box b => cases hd <;> simp_all [Node.keeper, Handle.copy]
        refine ⟨source, List.mem_cons_of_mem _ ?_, hself ▸ hf⟩
        by_contra hstays
        exact htable (inTable_of_find? (find?_of_capture hmore (hself ▸ hf) hstays))
      · obtain ⟨name, hmem, hname⟩ := ih hmore hx
        exact ⟨name, List.mem_cons_of_mem _ hmem, hname⟩
    | moved source =>
      obtain ⟨hd, more, hf, rfl, hmore⟩ := exists_of_capture_moved hc
      rcases List.mem_cons.mp hx with rfl | hx
      · exact ⟨source, List.mem_cons_self, hf⟩
      · obtain ⟨name, hmem, hname⟩ := ih hmore hx
        rw [find?_forget] at hname
        split at hname
        · simp at hname
        · exact ⟨name, List.mem_cons_of_mem _ hmem, hname⟩

theorem holdings_assemble (ha : st.assemble draft = some (d, after)) (x : Node) :
    after.holdings x = st.holdings x := by
  cases x <;> simp [holdings, (assemble_frame ha).1, boxes_assemble ha]

/-- A node that goes with a draft was moved into it. -/
theorem Tally.movedInto_of_goes (t : st.Tally []) (ha : st.assemble draft = some (d, after))
    (hx : after.Goes x) : st.MovedInto draft x := by
  obtain ⟨y, hxy, hheld, htable⟩ := (t.assemble ha).pending_of_goes hx
  have hpath : ReflTransGen st.HeldBy x y := by
    refine ReflTransGen.mono (fun z w hz => ?_) _ _ hxy
    rwa [HeldBy, ← holdings_assemble ha]
  obtain ⟨name, hmoved, hname⟩ := moved_of_capture (capture_of_assemble ha).1 hheld htable
  exact ⟨name, y, hmoved, hname, hpath⟩

end taking

section dropping

/-- To put a definition into a new box and drop the box again is to let go of what the definition
holds, with the number of the box used up. -/
theorem Tally.drop_addBox (t : st.Tally d.held) (hst : st.CallsMade)
    (hfresh : st.find? name = none) :
    (st.addBox name d).drop name = some ((st.release d.held).withGap st.boxes.length) := by
  let n := st.boxes.length
  let full : Store L ρ V := { st with boxes := st.boxes ++ [some d] }
  have hfull : full.find? name = none := hfresh
  have hadd : st.addBox name d = { full with handles := full.handles ++ [(name, .boxed n)] } :=
    put_of_find?_eq_none full hfull _
  have hforget : (st.addBox name d).forget name = full := by
    have hnone := congrArg handles (forget_of_find?_eq_none hfull)
    rw [hadd, Store.forget]
    simp only [Store.forget, List.filter_append] at hnone ⊢
    rw [hnone]
    simp
  have hall : full.allHandles = st.allHandles ++ d.held := by
    simp [full, allHandles, captured, boxHeld]
  have hlast : Handle.boxed n ∉ full.allHandles ++ [] := by
    rw [List.append_nil, hall]
    intro hm
    exact Nat.lt_irrefl n (t.below_target hm : (Handle.boxed n).target.Below n)
  have hclear : full.clear (.box n) = st.withGap n := by
    rw [t.withGap_length hst]
    simp [full, Store.clear, n]
  have hheld : d.held.map (Handle.raised n) = d.held.map id :=
    List.map_congr_left fun h hh => t.raised_eq_self (List.mem_append_right _ hh)
  have hreleased := release_withGap st (Nat.le_refl n) d.held
  rw [hheld, List.map_id] at hreleased
  rw [Store.drop, show (st.addBox name d).find? name = some (.boxed n) from find?_put _ _ _,
    Option.map_some, hforget, release_box_last (some d) (by simp [full, n]) hlast, hclear,
    List.nil_append]
  exact congrArg some hreleased

end dropping

section refusing
variable [Cursor κ α] {outside : Rules L ρ V}
  {read : {β : Type} → L β → κ → Outcome κ ParseError β} {budget : Nat} {m : Misuse}
  {fresh : String}

/-- The store that a refused definition leaves is the one that is left when the grammar has been
built into a box, and the box dropped. -/
structure LeftAsDropped (κ : Type) {α : Type} [Cursor κ α] (st : Store L ρ V) (draft : Draft L ρ V)
    (refused dropped : Store L ρ V) : Prop where
  handles_eq : dropped.handles = refused.handles
  slots_eq : dropped.slots = refused.slots
  /-- A box has been there and has gone. -/
  boxes_eq : dropped.boxes = refused.boxes ++ [none]
  /-- Whatever a program does from here, it has the same answers and comes to see the same. -/
  answers_eq : ∀ (outside : Rules L ρ V)
    (read : {β : Type} → L β → κ → Outcome κ ParseError β) (budget : Nat)
    (later : List (Command L ρ V κ)),
    (dropped.performAll outside read budget later).map (fun (as, st) => (as, st.sightings)) =
      (refused.performAll outside read budget later).map fun (as, st) => (as, st.sightings)
  /-- The same is left in whatever order the handles of the grammar are let go of, also if the owner
  of the slot that was to be filled is let go of last of all. -/
  any_order : ∀ d after, st.assemble draft = some (d, after) → ∀ last,
    ReflTransGen LetsGo (after, d.held) (last, []) ↔ last = refused
  /-- A slot that was not moved into the grammar stays as it is. -/
  kept : ∀ s : Nat, ¬ st.MovedInto draft (.slot s) → refused.slots[s]? = st.slots[s]?

theorem Tally.exists_of_refused (t : st.Tally [])
    (hp : st.perform outside read budget (.define name draft) = some (.refused m, refused)) :
    ∃ d after, st.assemble draft = some (d, after) ∧ refused = after.release d.held := by
  obtain ⟨d, after, s, ha, hafter, hf, rfl⟩ := exists_of_perform_define hp
  obtain ⟨slot, hslot⟩ := t.exists_slot hf
  have hanswer := perform_define outside read budget ha hafter hslot
  have hdefine : (slot.defineAnswer : Answer V κ) = .refused m :=
    congrArg Prod.fst (Option.some.inj (hanswer.symm.trans hp))
  refine ⟨d, after, ha, ?_⟩
  cases slot with
  | undefined => simp [Slot.defineAnswer] at hdefine
  | defined _ | dropped => rw [Store.fill, (assemble_frame ha).1, hslot]

theorem Tally.leftAsDropped (t : st.Tally []) (hst : st.CallsMade)
    (hp : st.perform outside read budget (.define name draft) = some (.refused m, refused))
    (hfresh : st.find? fresh = none) :
    ∃ built dropped, st.build fresh draft = some built ∧ built.drop fresh = some dropped ∧
      st.LeftAsDropped κ draft refused dropped := by
  obtain ⟨d, after, ha, rfl⟩ := t.exists_of_refused hp
  have tafter : after.Tally d.held := t.assemble ha
  have hafter : after.CallsMade :=
    (Grows.of_eq (assemble_frame ha).1 (boxes_assemble ha)).callsMade hst
  have hgone : after.find? fresh = none := by
    rw [Option.eq_none_iff_forall_ne_some]
    intro h hf
    simp [(assemble_frame ha).2 fresh h hf] at hfresh
  have hgap : (after.release d.held).withGap after.boxes.length =
      { after.release d.held with boxes := (after.release d.held).boxes ++ [none] } := by
    rw [← length_boxes_release after d.held]
    exact tafter.release.withGap_length ((grows_release _ _).callsMade hafter)
  refine ⟨_, _, by rw [Store.build, ha, Option.map_some], tafter.drop_addBox hafter hgone, ?_⟩
  constructor
  case handles_eq => rw [hgap]
  case slots_eq => rw [hgap]
  case boxes_eq => rw [hgap]
  case answers_eq =>
    intro outside read budget later
    have hlen : after.boxes.length ≤ (after.release d.held).boxes.length :=
      (length_boxes_release after d.held).ge
    rw [tafter.release.performAll_withGap hlen, Option.map_map]
    simp only [Function.comp_def, sightings_withGap]
  case any_order =>
    intro d' after' ha' last
    obtain ⟨rfl, rfl⟩ := Prod.mk.inj (Option.some.inj (ha.symm.trans ha'))
    constructor
    · exact fun hrun => (tafter.settles_of_letsGo hrun).unique tafter.settles_release
    · rintro rfl
      exact tafter.letsGo_release
  case kept =>
    intro s hs
    have hsame := tafter.settles_release.stays (.slot s) fun hgoes =>
      hs (t.movedInto_of_goes ha hgoes)
    rw [← (assemble_frame ha).1]
    exact hsame

/-- Whatever a program has done with its handles, a definition that is then refused costs nothing
but its grammar. Had the grammar been put into a box under a new name, and the box been dropped, all
handles, slots and answers would be the same from there on. -/
theorem define_refused (outside : Rules L ρ V)
    (read : {β : Type} → L β → κ → Outcome κ ParseError β) (budget : Nat)
    (commands : List (Command L ρ V κ)) (answers : List (Answer V κ)) (st : Store L ρ V)
    (hp : ({} : Store L ρ V).performAll outside read budget commands = some (answers, st))
    (name : String) (draft : Draft L ρ V) (m : Misuse) (refused : Store L ρ V)
    (hrefused : st.perform outside read budget (.define name draft) = some (.refused m, refused))
    (fresh : String) (hfresh : st.find? fresh = none) :
    ∃ dropped, st.performAll outside read budget [.build fresh draft, .drop fresh] =
        some ([.done, .done], dropped) ∧
      st.LeftAsDropped κ draft refused dropped := by
  have hst := (tally_empty.grows_performAll hp).callsMade callsMade_empty
  obtain ⟨built, dropped, hbuild, hdrop, hleft⟩ :=
    (tally_empty.performAll hp).leftAsDropped hst hrefused hfresh
  exact ⟨dropped, by simp [performAll, perform, hbuild, hdrop], hleft⟩

/-- A copy is to define its slot by a grammar that the owner of that very slot was moved into. -/
theorem define_refused_owner :
    let table : List (String × Handle) :=
      [("list", .owner 0), ("copy", .borrowed 0), ("other", .owner 1)]
    let comma : Definition (Leaf Token) Empty Token := ⟨.leaf (.exactly .comma), []⟩
    let draft : Draft (Leaf Token) Empty Token := ⟨[.moved "list"], .call (.inr "list")⟩
    let commands : List (Command (Leaf Token) Empty Token (ElementCursor Token)) :=
      [.declare "list", .clone "list" "copy", .define "copy" ⟨[], .leaf (.exactly .comma)⟩,
        .declare "other"]
    let st : Store (Leaf Token) Empty Token :=
      { handles := table, slots := [.defined comma, .undefined] }
    let refused : Store (Leaf Token) Empty Token :=
      { handles := table.tail, slots := [.dropped, .undefined] }
    ({} : Store (Leaf Token) Empty Token).performAll (fun r => r.elim) Leaf.read 0 commands =
        some ([.done, .done, .defined, .done], st) ∧
      st.perform (κ := ElementCursor Token) (fun r => r.elim) Leaf.read 0 (.define "copy" draft) =
        some (.refused .forwardRedefined, refused) ∧
      st.find? "new" = none ∧
      ∃ dropped, st.performAll (κ := ElementCursor Token) (fun r => r.elim) Leaf.read 0
          [.build "new" draft, .drop "new"] = some ([.done, .done], dropped) ∧
        st.LeftAsDropped (ElementCursor Token) draft refused dropped := by
  intro table comma draft commands st refused
  have hrun : ({} : Store (Leaf Token) Empty Token).performAll (fun r => r.elim) Leaf.read 0
      commands = some ([.done, .done, .defined, .done], st) := by
    simp [commands, st, table, comma, performAll, perform, declare, clone, define, assemble,
      capture, fill, put, find?, forget, release, Handle.copy, slotOf, Grammar.rename]
  have hrefused : st.perform (κ := ElementCursor Token) (fun r => r.elim) Leaf.read 0
      (.define "copy" draft) = some (.refused .forwardRedefined, refused) := by
    have hrelease : (st.forget "list").release [.owner 0] = refused := by
      rw [release_owner (.defined comma) rfl]
      simp [st, refused, table, comma, forget, clear, Slot.held, release]
    rw [← hrelease]
    simp [st, table, comma, draft, perform, define, assemble, capture, find?, forget, slotOf, fill]
  have hfresh : st.find? "new" = none := by simp [st, table, find?]
  exact ⟨hrun, hrefused, hfresh,
    define_refused _ _ 0 commands _ st hrun "copy" draft _ refused hrefused "new" hfresh⟩

end refusing

end Store
end Descent.Forward
