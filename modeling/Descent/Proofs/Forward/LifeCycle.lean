import Descent.Proofs.Forward.Ownership
import Descent.Proofs.Grammar.Budget

/-!
# The life of a slot

A slot is declared empty, is filled at most once, and is dropped in the end or not at all. What its
handles show and answer depends on nothing but where in its life it is. So a definition, once given,
is the one that every call of the slot runs from then on, until its owner is gone.
-/
namespace Descent.Forward

variable {L : Type → Type} {ρ V κ α : Type}

namespace Slot
variable {a b c : Slot L ρ V}

/-- How a slot may be found at a later time. -/
inductive Becomes : Slot L ρ V → Slot L ρ V → Prop
  | stays (slot : Slot L ρ V) : Becomes slot slot
  | filled (d : Definition L ρ V) : Becomes .undefined (.defined d)
  | dropped (slot : Slot L ρ V) : Becomes slot .dropped

theorem Becomes.trans (h : a.Becomes b) (h' : b.Becomes c) : a.Becomes c := by
  cases h' with
  | stays => exact h
  | dropped => exact .dropped a
  | filled d =>
    cases h with
    | stays => exact .filled d

/-- What is answered to a command that defines the slot. -/
def defineAnswer : Slot L ρ V → Answer V κ
  | .undefined => .defined
  | .defined _ => .refused .forwardRedefined
  | .dropped => .refused .droppedForward

end Slot

/-- How one command may change what a store has for a slot, if `filled` tells what it may be filled
with. -/
inductive SlotStep (filled : Definition L ρ V → Prop) :
    Option (Slot L ρ V) → Option (Slot L ρ V) → Prop
  | stays (o : Option (Slot L ρ V)) : SlotStep filled o o
  | declared : SlotStep filled none (some .undefined)
  | filled {d : Definition L ρ V} (h : filled d) :
    SlotStep filled (some .undefined) (some (.defined d))
  | dropped (slot : Slot L ρ V) : SlotStep filled (some slot) (some .dropped)

theorem SlotStep.becomes {filled : Definition L ρ V → Prop} {slot : Slot L ρ V}
    {o : Option (Slot L ρ V)}
    (h : SlotStep filled (some slot) o) : ∃ slot', o = some slot' ∧ slot.Becomes slot' := by
  cases h with
  | stays => exact ⟨slot, rfl, .stays slot⟩
  | filled _ => exact ⟨_, rfl, .filled _⟩
  | dropped => exact ⟨.dropped, rfl, .dropped slot⟩

namespace Store
variable {st st' after : Store L ρ V} {pending held : List Handle} {h : Handle} {name : String}
  {s : Nat} {slot : Slot L ρ V} {d : Definition L ρ V} {draft : Draft L ρ V}

section capture

theorem find?_forget (st : Store L ρ V) (gone name : String) :
    (st.forget gone).find? name = if name = gone then none else st.find? name := by
  by_cases hname : name = gone
  · subst hname
    simp [find?, forget, List.find?_eq_none]
  · rw [if_neg hname, find?, find?, forget, List.find?_filter]
    congr 2
    funext entry
    by_cases he : entry.1 = name
    · simp [he, hname]
    · simp [he]

/-- A draft takes hold of handles in the table, and touches nothing else. -/
theorem capture_frame {captures : List Capture} (hc : st.capture captures = some (held, after)) :
    after.slots = st.slots ∧ ∀ name h, after.find? name = some h → st.find? name = some h := by
  induction captures generalizing st held with
  | nil =>
    obtain ⟨-, rfl⟩ := Prod.mk.inj (Option.some.inj hc)
    exact ⟨rfl, fun _ _ hf => hf⟩
  | cons c captures ih =>
    cases c with
    | copied source =>
      obtain ⟨_, _, -, -, hmore⟩ := exists_of_capture_copied hc
      exact ih hmore
    | moved source =>
      obtain ⟨_, _, -, -, hmore⟩ := exists_of_capture_moved hc
      obtain ⟨hslots, hfind⟩ := ih hmore
      refine ⟨hslots, fun name h hf => ?_⟩
      have hforget := hfind name h hf
      rw [find?_forget] at hforget
      split at hforget
      · simp at hforget
      · exact hforget

theorem assemble_frame (ha : st.assemble draft = some (d, after)) :
    after.slots = st.slots ∧ ∀ name h, after.find? name = some h → st.find? name = some h :=
  capture_frame (capture_of_assemble ha).1

end capture

section waning

/-- Slots stay as they are or are dropped. -/
def Wanes (st st' : Store L ρ V) : Prop :=
  ∀ s : Nat, st'.slots[s]? = st.slots[s]? ∨
    st'.slots[s]? = some Slot.dropped ∧ ∃ slot, st.slots[s]? = some slot

theorem Wanes.of_slots (hslots : st'.slots = st.slots) : Wanes st st' :=
  fun _ => Or.inl (by rw [hslots])

theorem Wanes.trans {st'' : Store L ρ V} (w : Wanes st st') (w' : Wanes st' st'') :
    Wanes st st'' := by
  intro s
  rcases w' s with he' | ⟨hdrop', slot', hslot'⟩
  · rw [he']
    exact w s
  · refine Or.inr ⟨hdrop', ?_⟩
    rcases w s with he | ⟨_, hslot⟩
    · exact ⟨slot', he ▸ hslot'⟩
    · exact hslot

theorem wanes_clear (hs : st.slots[s]? = some slot) : Wanes st (st.clear (.slot s)) := by
  intro s'
  by_cases he : s = s'
  · subst he
    have hlt : s < st.slots.length := (List.getElem?_eq_some_iff.mp hs).1
    exact Or.inr ⟨List.getElem?_set_self hlt, slot, hs⟩
  · exact Or.inl (List.getElem?_set_ne he)

theorem release_owner (slot : Slot L ρ V) (hs : st.slots[s]? = some slot) (more : List Handle) :
    st.release (.owner s :: more) = (st.clear (.slot s)).release (more ++ slot.held) := by
  rw [release]
  split
  · next slot' hslot' =>
    obtain rfl : slot' = slot := Option.some.inj (hslot'.symm.trans hs)
    rfl
  · next hnone => simp [hs] at hnone

theorem wanes_release (st : Store L ρ V) (pending : List Handle) :
    Wanes st (st.release pending) := by
  fun_induction Store.release st pending with
  | case1 st => exact Wanes.of_slots rfl
  | case3 st s hs slot hslot ih => exact (wanes_clear hslot).trans ih
  | case6 st b hs box hbox hmem ih => exact (Wanes.of_slots rfl).trans ih
  | case2 st s hs ih => exact ih
  | case4 st s hs hslot ih => exact ih
  | case5 st b hs box hbox hmem ih => exact ih
  | case7 st b hs hbox ih => exact ih

theorem wanes_put (st : Store L ρ V) (name : String) (h : Handle) : Wanes st (st.put name h) :=
  (Wanes.of_slots rfl).trans (wanes_release _ _)

theorem wanes_addBox (st : Store L ρ V) (name : String) (d : Definition L ρ V) :
    Wanes st (st.addBox name d) :=
  (Wanes.of_slots rfl).trans (wanes_put _ _ _)

theorem Wanes.step (w : Wanes st st') (filled : Definition L ρ V → Prop) (s : Nat) :
    SlotStep filled st.slots[s]? st'.slots[s]? := by
  rcases w s with he | ⟨hdrop, slot, hslot⟩
  · rw [he]
    exact .stays _
  · rw [hdrop, hslot]
    exact .dropped slot

end waning

section commands
variable [Cursor κ α] {outside : Rules L ρ V}
  {read : {β : Type} → L β → κ → Outcome κ ParseError β} {budget : Nat}
  {c : Command L ρ V κ} {cs ds : List (Command L ρ V κ)} {a : Answer V κ}
  {as : List (Answer V κ)}

/-- A slot that is declared is empty, whatever handle goes for its sake. -/
theorem Tally.slots_declare (t : st.Tally []) (name : String) :
    (st.declare name).slots[st.slots.length]? = some .undefined := by
  have hwanes := wanes_put { st with slots := st.slots ++ [.undefined] } name
    (.owner st.slots.length)
  rcases hwanes st.slots.length with he | ⟨hdrop, -⟩
  · exact he.trans (by simp)
  · -- The slot has its owner in the table.
    have hfind : (st.declare name).find? name = some (.owner st.slots.length) := find?_put _ _ _
    have hmem := List.mem_append_left [] (find?_mem hfind)
    obtain ⟨slot, hslot, halive⟩ :=
      ((t.declare name).alive_iff_mem (.slot st.slots.length)).mpr hmem
    obtain rfl : Slot.dropped = slot := Option.some.inj (hdrop.symm.trans hslot)
    simp [Slot.isAlive] at halive

theorem Tally.declare_step (t : st.Tally []) (filled : Definition L ρ V → Prop) (s : Nat) :
    SlotStep filled st.slots[s]? (st.declare name).slots[s]? := by
  by_cases hs : s = st.slots.length
  · subst hs
    rw [t.slots_declare, List.getElem?_eq_none (Nat.le_refl _)]
    exact .declared
  · have hwanes := wanes_put { st with slots := st.slots ++ [.undefined] } name
      (.owner st.slots.length)
    have hstep := hwanes.step filled s
    rwa [getElem?_append_one, if_neg hs] at hstep

/-- The command fills the slot with the definition. -/
def FilledBy (outside : Rules L ρ V) (read : {β : Type} → L β → κ → Outcome κ ParseError β)
    (budget : Nat) (st : Store L ρ V) (c : Command L ρ V κ) (s : Nat) (d : Definition L ρ V) :
    Prop :=
  ∃ name draft st', c = .define name draft ∧ (st.find? name).bind slotOf = some s ∧
    (st.assemble draft).map Prod.fst = some d ∧
    st.perform outside read budget c = some (.defined, st')

theorem fill_undefined (hs : st.slots[s]? = some .undefined) :
    st.fill s d = (none, { st with slots := st.slots.set s (.defined d) }) := by
  rw [fill, hs]

/-- What a command to define a slot does, once its draft is built. -/
theorem perform_define (outside : Rules L ρ V)
    (read : {β : Type} → L β → κ → Outcome κ ParseError β) (budget : Nat)
    (ha : st.assemble draft = some (d, after)) (hf : (after.find? name).bind slotOf = some s)
    (hs : st.slots[s]? = some slot) :
    st.perform outside read budget (.define name draft) =
      some (slot.defineAnswer, (after.fill s d).2) := by
  have hslots := (assemble_frame ha).1
  rw [← hslots] at hs
  cases slot <;>
    simp [perform, define, ha, hf, fill, hs, Slot.defineAnswer]

theorem exists_of_perform_define
    (hp : st.perform outside read budget (.define name draft) = some (a, st')) :
    ∃ d after s, st.assemble draft = some (d, after) ∧ (after.find? name).bind slotOf = some s ∧
      (st.find? name).bind slotOf = some s ∧ st' = (after.fill s d).2 := by
  obtain ⟨⟨m, last⟩, hop, he⟩ := Option.map_eq_some_iff.mp hp
  obtain rfl : last = st' := by
    cases m <;> exact congrArg Prod.snd he
  obtain ⟨⟨d, after⟩, hassemble, h⟩ := Option.bind_eq_some_iff.mp hop
  dsimp only at h
  split at h
  · next s hs =>
    obtain ⟨hd, hf, hslot⟩ := Option.bind_eq_some_iff.mp hs
    have hfind := (assemble_frame hassemble).2 name hd hf
    refine ⟨d, after, s, hassemble, hs, ?_, (congrArg Prod.snd (Option.some.inj h)).symm⟩
    rw [hfind]
    exact hslot
  · simp at h

theorem Tally.exists_slot (t : st.Tally []) (hf : (st.find? name).bind slotOf = some s) :
    ∃ slot, st.slots[s]? = some slot := by
  obtain ⟨h, hfind, hslot⟩ := Option.bind_eq_some_iff.mp hf
  have hlt := t.declared h (List.mem_append_left [] (find?_mem hfind)) s hslot
  exact ⟨st.slots[s], List.getElem?_eq_getElem hlt⟩

theorem Tally.define_step (t : st.Tally [])
    (hp : st.perform outside read budget (.define name draft) = some (a, st')) (s : Nat) :
    SlotStep (st.FilledBy outside read budget (.define name draft) s) st.slots[s]?
      st'.slots[s]? := by
  obtain ⟨d, after, s', ha, hafter, hf, rfl⟩ := exists_of_perform_define hp
  obtain ⟨slot, hslot⟩ := t.exists_slot hf
  have hanswer := perform_define outside read budget ha hafter hslot
  have hslots := (assemble_frame ha).1
  cases slot with
  | undefined =>
    have hempty : after.slots[s']? = some .undefined := hslots ▸ hslot
    rw [fill_undefined hempty, ← hslots]
    by_cases hs : s' = s
    · subst hs
      have hlt : s' < after.slots.length := (List.getElem?_eq_some_iff.mp hempty).1
      rw [List.getElem?_set_self hlt, hempty]
      exact .filled ⟨name, draft, _, rfl, hf, by rw [ha]; rfl, hanswer⟩
    · rw [List.getElem?_set_ne hs]
      exact .stays _
  | defined d' | dropped =>
    have hrefused : (after.fill s' d).2 = after.release d.held := by
      rw [Store.fill, hslots, hslot]
    rw [hrefused]
    exact ((Wanes.of_slots hslots).trans (wanes_release after d.held)).step _ s

/-- What one command can do to a slot. Only a command that defines it can fill it. -/
theorem Tally.perform_step (t : st.Tally [])
    (hp : st.perform outside read budget c = some (a, st')) (s : Nat) :
    SlotStep (st.FilledBy outside read budget c s) st.slots[s]? st'.slots[s]? := by
  cases c with
  | declare name =>
    obtain ⟨-, rfl⟩ := Prod.mk.inj (Option.some.inj hp)
    exact t.declare_step _ s
  | clone source name =>
    obtain ⟨h, -, rfl⟩ := Option.map_eq_some_iff.mp (eq_some_of_map hp)
    exact (wanes_put st name h.copy).step _ s
  | box source name =>
    obtain ⟨h, -, rfl⟩ := Option.map_eq_some_iff.mp (eq_some_of_map hp)
    exact ((Wanes.of_slots rfl).trans (wanes_addBox (st.forget source) name _)).step _ s
  | build name draft =>
    obtain ⟨⟨d, after⟩, ha, rfl⟩ := Option.map_eq_some_iff.mp (eq_some_of_map hp)
    exact ((Wanes.of_slots (assemble_frame ha).1).trans (wanes_addBox after name d)).step _ s
  | define name draft => exact t.define_step hp s
  | drop name =>
    obtain ⟨h, -, rfl⟩ := Option.map_eq_some_iff.mp (eq_some_of_map hp)
    exact ((Wanes.of_slots rfl).trans (wanes_release (st.forget name) [h])).step _ s
  | parse name start =>
    obtain ⟨_, _, he⟩ := Option.map_eq_some_iff.mp hp
    obtain ⟨-, rfl⟩ := Prod.mk.inj he
    exact .stays _

theorem Tally.performAll_becomes (t : st.Tally [])
    (hp : st.performAll outside read budget cs = some (as, st')) (hs : st.slots[s]? = some slot) :
    ∃ slot', st'.slots[s]? = some slot' ∧ slot.Becomes slot' := by
  induction cs generalizing st slot as with
  | nil =>
    obtain ⟨-, rfl⟩ := Prod.mk.inj (Option.some.inj hp)
    exact ⟨slot, hs, .stays slot⟩
  | cons c cs ih =>
    obtain ⟨a, as', next, -, hperform, hrest⟩ := exists_of_performAll_cons hp
    have hstep := t.perform_step hperform s
    rw [hs] at hstep
    obtain ⟨mid, hmid, hbecomes⟩ := hstep.becomes
    obtain ⟨slot', hslot', hlater⟩ := ih (t.perform hperform) hrest hmid
    exact ⟨slot', hslot', hbecomes.trans hlater⟩

theorem performAll_cons (next : Store L ρ V)
    (hc : st.perform outside read budget c = some (a, next))
    (hcs : next.performAll outside read budget cs = some (as, after)) :
    st.performAll outside read budget (c :: cs) = some (a :: as, after) := by
  simp [performAll, hc, hcs]

theorem performAll_append (mid : Store L ρ V) {bs : List (Answer V κ)}
    (hcs : st.performAll outside read budget cs = some (as, mid))
    (hds : mid.performAll outside read budget ds = some (bs, st')) :
    st.performAll outside read budget (cs ++ ds) = some (as ++ bs, st') := by
  induction cs generalizing st as with
  | nil =>
    obtain ⟨rfl, rfl⟩ := Prod.mk.inj (Option.some.inj hcs)
    exact hds
  | cons c cs ih =>
    obtain ⟨a, as', next, rfl, hperform, hrest⟩ := exists_of_performAll_cons hcs
    exact performAll_cons next hperform (ih hrest)

theorem exists_of_performAll_append
    (hp : st.performAll outside read budget (cs ++ ds) = some (as, st')) :
    ∃ bs mid bs', st.performAll outside read budget cs = some (bs, mid) ∧
      mid.performAll outside read budget ds = some (bs', st') := by
  induction cs generalizing st as with
  | nil => exact ⟨[], st, as, rfl, hp⟩
  | cons c cs ih =>
    obtain ⟨a, as', next, -, hperform, hrest⟩ := exists_of_performAll_cons hp
    obtain ⟨bs, mid, bs', hcs, hds⟩ := ih hrest
    exact ⟨a :: bs, mid, bs', performAll_cons next hperform hcs, hds⟩

/-- One of the commands of the program, carried out after those before it, has filled the slot with
the definition. -/
def Filled (outside : Rules L ρ V) (read : {β : Type} → L β → κ → Outcome κ ParseError β)
    (budget : Nat) (commands : List (Command L ρ V κ)) (s : Nat) (d : Definition L ρ V) : Prop :=
  ∃ before c later answers st, commands = before ++ c :: later ∧
    ({} : Store L ρ V).performAll outside read budget before = some (answers, st) ∧
    st.FilledBy outside read budget c s d

theorem Filled.append (hf : Filled outside read budget cs s d) (ds : List (Command L ρ V κ)) :
    Filled outside read budget (cs ++ ds) s d := by
  obtain ⟨before, c, later, answers, st, rfl, hbefore, hc⟩ := hf
  exact ⟨before, c, later ++ ds, answers, st, by simp, hbefore, hc⟩

/-- A slot that has a definition was filled with it. -/
theorem filled_of_defined
    (hp : ({} : Store L ρ V).performAll outside read budget cs = some (as, st))
    (hs : st.slots[s]? = some (.defined d)) : Filled outside read budget cs s d := by
  induction cs using List.reverseRecOn generalizing as st with
  | nil =>
    obtain ⟨-, rfl⟩ := Prod.mk.inj (Option.some.inj hp)
    simp at hs
  | append_singleton cs c ih =>
    obtain ⟨bs, mid, bs', hcs, hc⟩ := exists_of_performAll_append hp
    obtain ⟨a, as', next, -, hperform, hnil⟩ := exists_of_performAll_cons hc
    obtain ⟨-, rfl⟩ := Prod.mk.inj (Option.some.inj hnil)
    have hstep := (tally_empty.performAll hcs).perform_step hperform s
    rw [hs] at hstep
    generalize ho : mid.slots[s]? = o at hstep
    cases hstep with
    | stays => exact (ih hcs ho).append [c]
    | filled hfilled => exact ⟨cs, c, [], bs, mid, rfl, hcs, hfilled⟩

/-- A command that fills a slot leaves its definition there. -/
theorem FilledBy.slots (t : st.Tally []) (hf : st.FilledBy outside read budget c s d)
    (hp : st.perform outside read budget c = some (a, st')) :
    st'.slots[s]? = some (.defined d) := by
  obtain ⟨name, draft, next, rfl, hname, hd, hdefined⟩ := hf
  obtain ⟨-, rfl⟩ := Prod.mk.inj (Option.some.inj (hp.symm.trans hdefined))
  obtain ⟨d', after, s', ha, hafter, hname', rfl⟩ := exists_of_perform_define hp
  obtain rfl : s' = s := Option.some.inj (hname'.symm.trans hname)
  obtain rfl : d' = d := by simpa [ha] using hd
  obtain ⟨slot, hslot⟩ := t.exists_slot hname
  have hanswer := perform_define outside read budget ha hafter hslot
  have hundefined : (slot.defineAnswer : Answer V κ) = .defined :=
    congrArg Prod.fst (Option.some.inj (hanswer.symm.trans hdefined))
  cases slot with
  | undefined =>
    have hempty : after.slots[s']? = some .undefined := (assemble_frame ha).1 ▸ hslot
    have hlt : s' < after.slots.length := (List.getElem?_eq_some_iff.mp hempty).1
    rw [fill_undefined hempty]
    exact List.getElem?_set_self hlt
  | defined _ | dropped => simp [Slot.defineAnswer] at hundefined

theorem defined_of_becomes
    (hlater : ∃ slot, st.slots[s]? = some slot ∧ (Slot.defined d).Becomes slot)
    (halive : st.Alive (.slot s)) : st.slots[s]? = some (.defined d) := by
  obtain ⟨slot, hslot, hbecomes⟩ := hlater
  obtain ⟨slot', hslot', hisAlive⟩ := halive
  obtain rfl : slot = slot' := Option.some.inj (hslot.symm.trans hslot')
  cases hbecomes with
  | stays => exact hslot
  | dropped => simp [Slot.isAlive] at hisAlive

/-- A definition stays until the slot is dropped. -/
theorem defined_of_filled
    (hp : ({} : Store L ρ V).performAll outside read budget cs = some (as, st))
    (hf : Filled outside read budget cs s d) (halive : st.Alive (.slot s)) :
    st.slots[s]? = some (.defined d) := by
  obtain ⟨before, c, later, answers, mid, rfl, hbefore, hc⟩ := hf
  obtain ⟨bs, mid', bs', hbefore', hlater⟩ := exists_of_performAll_append hp
  obtain ⟨-, rfl⟩ := Prod.mk.inj (Option.some.inj (hbefore.symm.trans hbefore'))
  obtain ⟨a, as', next, -, hperform, hrest⟩ := exists_of_performAll_cons hlater
  have t := tally_empty.performAll hbefore
  have hslot := hc.slots t hperform
  exact defined_of_becomes ((t.perform hperform).performAll_becomes hrest hslot) halive

theorem rules_slot (outside : Rules L ρ V) (hs : st.slots[s]? = some slot) :
    st.rules outside (.slot s) =
      match slot with
      | .undefined => .error .undefinedForward
      | .defined d => .ok d.grammar
      | .dropped => .error .droppedForward := by
  cases slot <;> simp [rules, hs]

theorem run_call_slot (outside : Rules L ρ V) (hs : st.slots[s]? = some slot) (n : Nat) (c : κ) :
    (st.rules outside).run read (n + 1) (.call (.slot s)) c =
      match slot with
      | .undefined => Run.raise (.misuse .undefinedForward)
      | .defined d => (st.rules outside).run read n d.grammar c
      | .dropped => Run.raise (.misuse .droppedForward) := by
  have hrule := rules_slot outside hs
  cases slot with
  | defined d => rw [Rules.run_call_succ hrule]
  | undefined | dropped =>
    rw [Rules.run_call_misused hrule]
    rfl

theorem target_of_slotOf (hs : slotOf h = some s) : (h.target : Target ρ) = .slot s := by
  cases h with
  | owner s' | borrowed s' => exact congrArg Target.slot (Option.some.inj hs)
  | boxed b => simp [slotOf] at hs

/-- Every handle of a slot parses as a call of the slot. -/
theorem perform_parse (hf : (st.find? name).bind slotOf = some s) (start : κ) :
    st.perform outside read budget (.parse name start) =
      some (.parsed ((st.rules outside).run read budget (.call (.slot s)) start), st) := by
  obtain ⟨h, hfind, hslot⟩ := Option.bind_eq_some_iff.mp hf
  simp [perform, Store.parser, hfind, target_of_slotOf hslot]

/-- The life of the slots of a store that a program has come to. -/
structure LifeCycle (outside : Rules L ρ V)
    (read : {β : Type} → L β → κ → Outcome κ ParseError β) (budget : Nat)
    (commands : List (Command L ρ V κ)) (st : Store L ρ V) : Prop where
  /-- Every handle of a slot in the table refers to one that was declared. -/
  declared : ∀ name s, (st.find? name).bind slotOf = some s → ∃ slot, st.slots[s]? = some slot
  begins : ∀ name, (st.declare name).slots[st.slots.length]? = some .undefined
  /-- Whatever the program does next, no slot goes back. -/
  moves : ∀ later answers st', st.performAll outside read budget later = some (answers, st') →
    ∀ (s : Nat) slot, st.slots[s]? = some slot →
      ∃ slot', st'.slots[s]? = some slot' ∧ slot.Becomes slot'
  /-- A slot that is there has the definition that a command has filled it with, if one has. -/
  defined_iff : ∀ (s : Nat) d, st.slots[s]? = some (.defined d) ↔
    st.Alive (.slot s) ∧ Filled outside read budget commands s d
  undefined_iff : ∀ s : Nat, st.slots[s]? = some .undefined ↔
    st.Alive (.slot s) ∧ ∀ d, ¬ Filled outside read budget commands s d
  /-- A definition is carried out or refused if its draft can be built without the handle. -/
  define_answered : ∀ name s draft d after, (st.find? name).bind slotOf = some s →
    st.assemble draft = some (d, after) → after.find? name = st.find? name →
      ∃ a st', st.perform outside read budget (.define name draft) = some (a, st')
  define_answer_iff : ∀ name s slot draft a st', (st.find? name).bind slotOf = some s →
    st.slots[s]? = some slot →
    st.perform outside read budget (.define name draft) = some (a, st') →
      (a = .defined ↔ slot = .undefined) ∧
      (a = .refused .forwardRedefined ↔ ∃ d, slot = .defined d) ∧
      (a = .refused .droppedForward ↔ slot = .dropped)
  parse_defined : ∀ name s d n c, (st.find? name).bind slotOf = some s →
    st.slots[s]? = some (.defined d) →
      st.perform outside read (n + 1) (.parse name c) =
        some (.parsed ((st.rules outside).run read n d.grammar c), st)
  parse_undefined : ∀ name s n c, (st.find? name).bind slotOf = some s →
    st.slots[s]? = some .undefined →
      ∃ e, st.perform outside read (n + 1) (.parse name c) = some (.parsed (Run.raise e), st) ∧
        e = .misuse .undefinedForward ∧ e.code = 103
  parse_dropped : ∀ name s n c, (st.find? name).bind slotOf = some s →
    st.slots[s]? = some .dropped →
      ∃ e, st.perform outside read (n + 1) (.parse name c) = some (.parsed (Run.raise e), st) ∧
        e = .misuse .droppedForward ∧ e.code = 105
  /-- All handles of a slot show the same, and parse the same. -/
  sight_agrees : ∀ name h s slot, st.find? name = some h → slotOf h = some s →
    st.slots[s]? = some slot → ∃ owner, st.sight h = .forward owner slot.isDefined
  parse_agrees : ∀ name name' s n c, (st.find? name).bind slotOf = some s →
    (st.find? name').bind slotOf = some s →
      st.perform outside read n (.parse name c) = st.perform outside read n (.parse name' c)
  /-- They parse as a grammar does that calls the slot through a handle it holds. -/
  parse_is_call : ∀ name s n c, (st.find? name).bind slotOf = some s →
    st.perform outside read n (.parse name c) =
      some (.parsed ((st.rules outside).run read n (.call (.slot s)) c), st)

theorem undefined_iff_of_run
    (hp : ({} : Store L ρ V).performAll outside read budget cs = some (as, st)) (s : Nat) :
    st.slots[s]? = some .undefined ↔
      st.Alive (.slot s) ∧ ∀ d, ¬ Filled outside read budget cs s d := by
  constructor
  · intro hs
    have halive : st.Alive (.slot s) := ⟨.undefined, hs, rfl⟩
    refine ⟨halive, fun d hfilled => ?_⟩
    have hdefined := defined_of_filled hp hfilled halive
    simp [hs] at hdefined
  · rintro ⟨⟨slot, hslot, halive⟩, hnone⟩
    cases slot with
    | undefined => exact hslot
    | defined d => exact absurd (filled_of_defined hp hslot) (hnone d)
    | dropped => simp [Slot.isAlive] at halive

theorem answer_iff_of_perform_define (hf : (st.find? name).bind slotOf = some s)
    (hs : st.slots[s]? = some slot)
    (hp : st.perform outside read budget (.define name draft) = some (a, st')) :
    (a = .defined ↔ slot = .undefined) ∧
      (a = .refused .forwardRedefined ↔ ∃ d, slot = .defined d) ∧
      (a = .refused .droppedForward ↔ slot = .dropped) := by
  obtain ⟨d, after, s', ha, hafter, hf', rfl⟩ := exists_of_perform_define hp
  obtain rfl : s = s' := Option.some.inj (hf.symm.trans hf')
  have hanswer := perform_define outside read budget ha hafter hs
  obtain rfl : a = slot.defineAnswer := congrArg Prod.fst (Option.some.inj (hp.symm.trans hanswer))
  cases slot <;> simp [Slot.defineAnswer]

/-- Whatever a program does with its handles, every slot goes from empty to filled to dropped, or
from empty to dropped, and is filled by the first definition that it is given. What any handle of
the slot answers, to a definition or to a parse, tells where the slot is in its life. -/
theorem performAll_lifeCycle (outside : Rules L ρ V)
    (read : {β : Type} → L β → κ → Outcome κ ParseError β) (budget : Nat)
    (commands : List (Command L ρ V κ)) (answers : List (Answer V κ)) (st : Store L ρ V)
    (hp : ({} : Store L ρ V).performAll outside read budget commands = some (answers, st)) :
    st.LifeCycle outside read budget commands := by
  have t := tally_empty.performAll hp
  constructor
  case declared => exact fun name s hf => t.exists_slot hf
  case begins => exact fun name => t.slots_declare name
  case moves => exact fun later answers st' hlater s slot hs => t.performAll_becomes hlater hs
  case defined_iff =>
    intro s d
    constructor
    · exact fun hs => ⟨⟨.defined d, hs, rfl⟩, filled_of_defined hp hs⟩
    · exact fun ⟨halive, hfilled⟩ => defined_of_filled hp hfilled halive
  case undefined_iff => exact undefined_iff_of_run hp
  case define_answered =>
    intro name s draft d after hf ha hkept
    obtain ⟨slot, hs⟩ := t.exists_slot hf
    exact ⟨_, _, perform_define outside read budget ha (hkept ▸ hf) hs⟩
  case define_answer_iff =>
    intro name s slot draft a st' hf hs hdefine
    exact answer_iff_of_perform_define hf hs hdefine
  case parse_defined =>
    intro name s d n c hf hs
    rw [perform_parse hf, run_call_slot outside hs]
  case parse_undefined =>
    intro name s n c hf hs
    exact ⟨_, by rw [perform_parse hf, run_call_slot outside hs], rfl, rfl⟩
  case parse_dropped =>
    intro name s n c hf hs
    exact ⟨_, by rw [perform_parse hf, run_call_slot outside hs], rfl, rfl⟩
  case sight_agrees =>
    intro name h s slot _ hslot hs
    cases h with
    | owner s' | borrowed s' =>
      obtain rfl : s' = s := Option.some.inj hslot
      exact ⟨_, by simp [sight, hs]; rfl⟩
    | boxed b => simp [slotOf] at hslot
  case parse_agrees =>
    intro name name' s n c hf hf'
    rw [perform_parse hf, perform_parse hf']
  case parse_is_call => exact fun name s n c hf => perform_parse hf c

/-- The draft captures a copy of the handle that it is to define, through which it is also refused a
second time. After the owner is gone the copy tells so. -/
theorem performAll_lifeCycle_copy :
    let source : Source Token := ⟨0, [.comma, .comma]⟩
    let start : ElementCursor Token := .within source 0
    let comma : Draft (Leaf Token) Empty Token := ⟨[.copied "list"], .leaf (.exactly .comma)⟩
    let commands : List (Command (Leaf Token) Empty Token (ElementCursor Token)) :=
      [.declare "list", .clone "list" "copy", .parse "copy" start, .define "copy" comma,
        .define "list" comma, .parse "copy" start, .drop "list", .parse "copy" start]
    let answers : List (Answer Token (ElementCursor Token)) :=
      [.done, .done, .parsed (Run.raise (.misuse .undefinedForward)), .defined,
        .refused .forwardRedefined, .parsed (Run.success .comma (.within source 1)), .done,
        .parsed (Run.raise (.misuse .droppedForward))]
    let st : Store (Leaf Token) Empty Token :=
      { handles := [("copy", .borrowed 0)], slots := [.dropped] }
    ({} : Store (Leaf Token) Empty Token).performAll (fun r => r.elim) Leaf.read 1 commands =
        some (answers, st) ∧
      st.LifeCycle (fun r => r.elim) Leaf.read 1 commands := by
  intro source start comma commands answers st
  let table : List (String × Handle) := [("list", .owner 0), ("copy", .borrowed 0)]
  let empty : Store (Leaf Token) Empty Token := { handles := table, slots := [.undefined] }
  let filled : Store (Leaf Token) Empty Token :=
    { handles := table, slots := [.defined ⟨.leaf (.exactly .comma), [.borrowed 0]⟩] }
  have hrun : ({} : Store (Leaf Token) Empty Token).performAll (fun r => r.elim) Leaf.read 1
      commands = some (answers, st) := by
    refine performAll_cons { handles := [("list", .owner 0)], slots := [.undefined] } ?_ ?_
    · simp [perform, declare, put, find?, forget, release]
    refine performAll_cons empty ?_ ?_
    · simp [empty, table, perform, clone, put, find?, forget, release, Handle.copy]
    refine performAll_cons _ (perform_parse (s := 0) rfl start) ?_
    refine performAll_cons filled rfl ?_
    refine performAll_cons filled ?_ ?_
    · simp [filled, table, comma, perform, define, assemble, capture, find?, fill, release, slotOf,
        Handle.copy]
    refine performAll_cons _ (perform_parse (s := 0) rfl start) ?_
    refine performAll_cons st ?_ ?_
    · have hdrop : (filled.forget "list").release [.owner 0] = st := by
        rw [release_owner (.defined ⟨.leaf (.exactly .comma), [.borrowed 0]⟩) rfl]
        simp [filled, table, st, forget, clear, Slot.held, release]
      simpa [perform, drop, filled, table, find?] using hdrop
    exact performAll_cons _ (perform_parse (s := 0) rfl start) rfl
  exact ⟨hrun, performAll_lifeCycle _ _ 1 commands answers st hrun⟩

end commands
end Store
end Descent.Forward
