import Descent.Proofs.Forward.Recursion

/-!
# Box numbers

Boxes are numbered in the order in which they were made, but nothing that a program can see depends
on the numbers. A store with a gap, that is with a box more that is gone, and the later boxes
numbered on from it, answers every command as the store without it does, and comes out of the
command with the same gap.
-/
namespace Descent

variable {L : Type → Type} {ρ σ V κ α β : Type}

/-- Whether all names that a grammar calls have a property. -/
def Grammar.AllCalls (good : ρ → Prop) : {β : Type} → Grammar L ρ V β → Prop
  | _, leaf _ => True
  | _, succeed _ => True
  | _, reject _ => True
  | _, orElse p q => p.AllCalls good ∧ q.AllCalls good
  | _, bind p k => p.AllCalls good ∧ ∀ v, (k v).AllCalls good
  | _, many p => p.AllCalls good
  | _, sepBy p s => p.AllCalls good ∧ s.AllCalls good
  | _, defer _ p => p.AllCalls good
  | _, traced _ p => p.AllCalls good
  | _, call r => good r

theorem Grammar.AllCalls.mono {good good' : ρ → Prop} {g : Grammar L ρ V β}
    (h : g.AllCalls good) (himp : ∀ r, good r → good' r) : g.AllCalls good' := by
  induction g with
  | leaf l => trivial
  | succeed v => trivial
  | reject message => trivial
  | orElse p q ihp ihq => exact ⟨ihp h.1, ihq h.2⟩
  | bind p k ihp ihk => exact ⟨ihp h.1, fun v => ihk v (h.2 v)⟩
  | many p ih => exact ih h
  | sepBy p s ihp ihs => exact ⟨ihp h.1, ihs h.2⟩
  | defer label p ih => exact ih h
  | traced name p ih => exact ih h
  | call r => exact himp r h

theorem Grammar.allCalls_rename {good : σ → Prop} {f : ρ → σ} (h : ∀ r, good (f r))
    (g : Grammar L ρ V β) : (g.rename f).AllCalls good := by
  induction g with
  | leaf l => trivial
  | succeed v => trivial
  | reject message => trivial
  | orElse p q ihp ihq => exact ⟨ihp, ihq⟩
  | bind p k ihp ihk => exact ⟨ihp, ihk⟩
  | many p ih => exact ih
  | sepBy p s ihp ihs => exact ⟨ihp, ihs⟩
  | defer label p ih => exact ih
  | traced name p ih => exact ih
  | call r => exact h r

theorem Grammar.rename_eq_self {f : ρ → ρ} {g : Grammar L ρ V β}
    (h : g.AllCalls fun r => f r = r) : g.rename f = g := by
  induction g with
  | leaf l => rfl
  | succeed v => rfl
  | reject message => rfl
  | orElse p q ihp ihq => exact congrArg₂ orElse (ihp h.1) (ihq h.2)
  | bind p k ihp ihk => exact congrArg₂ bind (ihp h.1) (funext fun v => ihk v (h.2 v))
  | many p ih => exact congrArg many (ih h)
  | sepBy p s ihp ihs => exact congrArg₂ sepBy (ihp h.1) (ihs h.2)
  | defer label p ih => exact congrArg (defer label) (ih h)
  | traced name p ih => exact congrArg (traced name) (ih h)
  | call r => exact congrArg call h

namespace Forward

universe u v

/-- A number where the numbers from `n` on have been raised by one. -/
def raise (n b : Nat) : Nat :=
  if b < n then b else b + 1

theorem raise_injective (n : Nat) : Function.Injective (raise n) := by
  intro a b h
  simp only [raise] at h
  split at h <;> split at h <;> omega

theorem raise_of_lt {n b : Nat} (h : b < n) : raise n b = b :=
  if_pos h

theorem raise_of_le {n b : Nat} (h : n ≤ b) : raise n b = b + 1 :=
  if_neg (Nat.not_lt.mpr h)

section gap
variable {γ : Type u} {δ : Type v} {n : Nat} {xs : List (Option γ)}

/-- A list with a gap before the entry `n`. -/
def gap (n : Nat) (xs : List (Option γ)) : List (Option γ) :=
  xs.take n ++ none :: xs.drop n

theorem length_gap (h : n ≤ xs.length) : (gap n xs).length = raise n xs.length := by
  simp [gap, raise_of_le h]
  omega

theorem gap_length_self (xs : List (Option γ)) : gap xs.length xs = xs ++ [none] := by
  simp [gap]

theorem getElem?_gap (h : n ≤ xs.length) (b : Nat) : (gap n xs)[raise n b]? = xs[b]? := by
  unfold gap raise
  split
  · next hb => rw [List.getElem?_append_left (by simp; omega), List.getElem?_take_of_lt hb]
  · next hb =>
    have hlen : (xs.take n).length = n := List.length_take_of_le h
    rw [List.getElem?_append_right (by omega), hlen, show b + 1 - n = (b - n) + 1 by omega,
      List.getElem?_cons_succ, List.getElem?_drop]
    congr 1
    omega

theorem set_gap (h : n ≤ xs.length) (b : Nat) (x : Option γ) :
    (gap n xs).set (raise n b) x = gap n (xs.set b x) := by
  unfold gap raise
  have hlen : (xs.take n).length = n := List.length_take_of_le h
  split
  · next hb =>
    rw [List.set_append_left _ _ (by omega), List.take_set, List.drop_set_of_lt hb]
  · next hb =>
    rw [List.set_append_right _ _ (by omega), hlen, show b + 1 - n = (b - n) + 1 by omega,
      List.set_cons_succ, List.take_set_of_le (by omega), List.drop_set, if_neg hb]

theorem gap_append (h : n ≤ xs.length) (x : Option γ) : gap n (xs ++ [x]) = gap n xs ++ [x] := by
  simp [gap, List.take_append_of_le_length h, List.drop_append_of_le_length h]

/-- Nothing is found in a gap. -/
theorem flatMap_gap (f : Option γ → List δ) (hf : f none = []) (n : Nat) (xs : List (Option γ)) :
    (gap n xs).flatMap f = xs.flatMap f := by
  rw [gap, List.flatMap_append, List.flatMap_cons, hf, List.nil_append, ← List.flatMap_append,
    List.take_append_drop]

end gap

section raised

def Handle.raised (n : Nat) : Handle → Handle
  | owner s => owner s
  | borrowed s => borrowed s
  | boxed b => boxed (raise n b)

def Target.raised (n : Nat) : Target ρ → Target ρ
  | rule r => rule r
  | slot s => slot s
  | box b => box (raise n b)
  | unbound => unbound

def Definition.raised (n : Nat) (d : Definition L ρ V) : Definition L ρ V :=
  ⟨d.grammar.rename (Target.raised n), d.held.map (Handle.raised n)⟩

def Slot.raised (n : Nat) : Slot L ρ V → Slot L ρ V
  | .undefined => .undefined
  | .defined d => .defined (d.raised n)
  | .dropped => .dropped

theorem Handle.raised_injective (n : Nat) : Function.Injective (raised n) := by
  intro h h' he
  cases h <;> cases h' <;> simp_all [raised, (raise_injective n).eq_iff]

theorem Handle.copy_raised (n : Nat) (h : Handle) : (h.raised n).copy = h.copy.raised n := by
  cases h <;> rfl

theorem Handle.target_raised (n : Nat) (h : Handle) :
    ((h.raised n).target : Target ρ) = h.target.raised n := by
  cases h <;> rfl

theorem Slot.held_raised (n : Nat) (slot : Slot L ρ V) :
    (slot.raised n).held = slot.held.map (Handle.raised n) := by
  cases slot <;> rfl

theorem Slot.isDefined_raised (n : Nat) (slot : Slot L ρ V) :
    (slot.raised n).isDefined = slot.isDefined := by
  cases slot <;> rfl

theorem boxHeld_raised (n : Nat) (box : Option (Definition L ρ V)) :
    boxHeld (box.map (Definition.raised n)) = (boxHeld box).map (Handle.raised n) := by
  cases box <;> rfl

/-- The target is no box from `n` on. -/
def Target.Below (n : Nat) : Target ρ → Prop
  | box b => b < n
  | _ => True

theorem Target.Below.mono {n m : Nat} {r : Target ρ} (hle : n ≤ m) (h : r.Below n) :
    r.Below m := by
  cases r with
  | box b => exact Nat.lt_of_lt_of_le h hle
  | rule r | slot s | unbound => trivial

theorem Target.raised_of_below {n : Nat} {r : Target ρ} (h : r.Below n) : r.raised n = r := by
  cases r with
  | box b => exact congrArg box (raise_of_lt h)
  | rule r | slot s | unbound => rfl

theorem Handle.raised_of_below {n : Nat} {h : Handle} (hh : (h.target : Target ρ).Below n) :
    h.raised n = h := by
  cases h with
  | boxed b => exact congrArg boxed (raise_of_lt hh)
  | owner s | borrowed s => rfl

end raised

namespace Store
variable {st st' : Store L ρ V} {pending more : List Handle} {h : Handle} {d : Definition L ρ V}
  {n s b : Nat} {name : String}

section gaps

/-- The store with a gap in the numbers of its boxes. -/
def withGap (n : Nat) (st : Store L ρ V) : Store L ρ V where
  handles := st.handles.map fun e => (e.1, e.2.raised n)
  slots := st.slots.map (Slot.raised n)
  boxes := gap n (st.boxes.map (Option.map (Definition.raised n)))

theorem slotOf_raised (n : Nat) (h : Handle) : slotOf (h.raised n) = slotOf h := by
  cases h <;> rfl

theorem find?_withGap (n : Nat) (st : Store L ρ V) (name : String) :
    (st.withGap n).find? name = (st.find? name).map (Handle.raised n) := by
  simp [find?, withGap, List.find?_map, Function.comp_def]

theorem forget_withGap (n : Nat) (st : Store L ρ V) (name : String) :
    (st.withGap n).forget name = (st.forget name).withGap n := by
  simp [forget, withGap, List.filter_map, Function.comp_def]

theorem slots_withGap (n : Nat) (st : Store L ρ V) (s : Nat) :
    (st.withGap n).slots[s]? = st.slots[s]?.map (Slot.raised n) := by
  simp [withGap]

theorem boxes_withGap (hn : n ≤ st.boxes.length) (b : Nat) :
    (st.withGap n).boxes[raise n b]? = st.boxes[b]?.map (Option.map (Definition.raised n)) := by
  rw [withGap, getElem?_gap (by simpa using hn), List.getElem?_map]

theorem allHandles_withGap (n : Nat) (st : Store L ρ V) :
    (st.withGap n).allHandles = st.allHandles.map (Handle.raised n) := by
  have hslots : (st.withGap n).slots.flatMap Slot.held =
      (st.slots.flatMap Slot.held).map (Handle.raised n) := by
    simp [withGap, List.flatMap_map, List.map_flatMap, Slot.held_raised]
  have hboxes : (st.withGap n).boxes.flatMap boxHeld =
      (st.boxes.flatMap boxHeld).map (Handle.raised n) := by
    rw [withGap, flatMap_gap boxHeld rfl]
    simp [List.flatMap_map, List.map_flatMap, boxHeld_raised]
  rw [allHandles, captured, hslots, hboxes]
  simp [allHandles, captured, withGap, Function.comp_def]

theorem clear_slot_withGap (n : Nat) (st : Store L ρ V) (s : Nat) :
    (st.withGap n).clear (.slot s) = (st.clear (.slot s)).withGap n := by
  simp [clear, withGap, List.map_set, Slot.raised]

theorem clear_box_withGap (hn : n ≤ st.boxes.length) (b : Nat) :
    (st.withGap n).clear (.box (raise n b)) = (st.clear (.box b)).withGap n := by
  have hlen : n ≤ (st.boxes.map (Option.map (Definition.raised n))).length := by simpa using hn
  simp only [clear, withGap, set_gap hlen, List.map_set, Option.map_none]

end gaps

section letting_go

theorem release_owner_none (hs : st.slots[s]? = none) (more : List Handle) :
    st.release (.owner s :: more) = st.release more := by
  rw [release]
  split
  · next hslot => simp [hs] at hslot
  · rfl

theorem release_box_none (hb : st.boxes[b]? = none) (more : List Handle) :
    st.release (.boxed b :: more) = st.release more := by
  rw [release]
  split
  · next hbox => simp [hb] at hbox
  · rfl

theorem release_box_kept (hm : Handle.boxed b ∈ st.allHandles ++ more) :
    st.release (.boxed b :: more) = st.release more := by
  rw [release]
  split
  · rw [if_pos (List.contains_iff_mem.mpr hm)]
  · rfl

theorem release_box_last (box : Option (Definition L ρ V)) (hb : st.boxes[b]? = some box)
    (hm : Handle.boxed b ∉ st.allHandles ++ more) :
    st.release (.boxed b :: more) = (st.clear (.box b)).release (more ++ boxHeld box) := by
  rw [release]
  split
  · next box' hbox' =>
    obtain rfl : box' = box := Option.some.inj (hbox'.symm.trans hb)
    rw [if_neg fun hc => hm (List.contains_iff_mem.mp hc)]
    rfl
  · next hnone => simp [hb] at hnone

theorem mem_raised_iff (hs : List Handle) : h.raised n ∈ hs.map (Handle.raised n) ↔ h ∈ hs :=
  List.mem_map_of_injective (Handle.raised_injective n)

theorem length_boxes_release (st : Store L ρ V) (pending : List Handle) :
    (st.release pending).boxes.length = st.boxes.length := by
  fun_induction Store.release st pending with
  | case1 st => rfl
  | case6 st b hs box hbox hmem ih => rw [ih, List.length_set]
  | case2 st s hs ih => exact ih
  | case3 st s hs slot hslot ih => exact ih
  | case4 st s hs hslot ih => exact ih
  | case5 st b hs box hbox hmem ih => exact ih
  | case7 st b hs hbox ih => exact ih

/-- Letting go of handles does not depend on the numbers of boxes. -/
theorem release_withGap (st : Store L ρ V) (hn : n ≤ st.boxes.length) (pending : List Handle) :
    (st.withGap n).release (pending.map (Handle.raised n)) =
      (st.release pending).withGap n := by
  fun_induction Store.release st pending with
  | case1 st => rw [List.map_nil, release]
  | case2 st s hs ih =>
    rw [List.map_cons, Handle.raised, release]
    exact ih hn
  | case3 st s hs slot hslot ih =>
    have hslot' : (st.withGap n).slots[s]? = some (slot.raised n) := by
      rw [slots_withGap, hslot, Option.map_some]
    rw [List.map_cons, Handle.raised, release_owner _ hslot', clear_slot_withGap,
      Slot.held_raised, ← List.map_append]
    exact ih hn
  | case4 st s hs hslot ih =>
    have hslot' : (st.withGap n).slots[s]? = none := by rw [slots_withGap, hslot, Option.map_none]
    rw [List.map_cons, Handle.raised, release_owner_none hslot']
    exact ih hn
  | case5 st b hs box hbox hmem ih =>
    -- No two boxes get the same number, so another handle to this one is found as before.
    have hkept : (Handle.boxed b).raised n ∈
        (st.withGap n).allHandles ++ hs.map (Handle.raised n) := by
      rw [allHandles_withGap, ← List.map_append, mem_raised_iff]
      exact List.contains_iff_mem.mp hmem
    rw [List.map_cons, Handle.raised, release_box_kept hkept]
    exact ih hn
  | case6 st b hs box hbox hmem ih =>
    have hbox' : (st.withGap n).boxes[raise n b]? = some (box.map (Definition.raised n)) := by
      rw [boxes_withGap hn, hbox, Option.map_some]
    have hlast : (Handle.boxed b).raised n ∉
        (st.withGap n).allHandles ++ hs.map (Handle.raised n) := by
      rw [allHandles_withGap, ← List.map_append, mem_raised_iff]
      exact fun hm => hmem (List.contains_iff_mem.mpr hm)
    rw [List.map_cons, Handle.raised, release_box_last _ hbox' hlast, clear_box_withGap hn,
      boxHeld_raised, ← List.map_append]
    exact ih (by simpa using hn)
  | case7 st b hs hbox ih =>
    have hbox' : (st.withGap n).boxes[raise n b]? = none := by
      rw [boxes_withGap hn, hbox, Option.map_none]
    rw [List.map_cons, Handle.raised, release_box_none hbox']
    exact ih hn

end letting_go

section operations
variable {draft : Draft L ρ V}

theorem put_withGap (hn : n ≤ st.boxes.length) (name : String) (h : Handle) :
    (st.withGap n).put name (h.raised n) = (st.put name h).withGap n := by
  have hreleased := release_withGap
    { st.forget name with handles := (st.forget name).handles ++ [(name, h)] } hn
    (st.find? name).toList
  rw [put, put, ← hreleased, find?_withGap, forget_withGap, Option.toList_map]
  simp [withGap]

theorem addBox_withGap (st : Store L ρ V) (hn : n ≤ st.boxes.length) (name : String)
    (d : Definition L ρ V) :
    (st.withGap n).addBox name (d.raised n) = (st.addBox name d).withGap n := by
  have hlen : n ≤ (st.boxes.map (Option.map (Definition.raised n))).length := by simpa using hn
  have hboxes : (st.withGap n).boxes ++ [some (d.raised n)] =
      gap n ((st.boxes ++ [some d]).map (Option.map (Definition.raised n))) := by
    rw [List.map_append, withGap, ← gap_append hlen]
    rfl
  have hnext : Handle.boxed (st.withGap n).boxes.length =
      (Handle.boxed st.boxes.length).raised n := by
    rw [withGap, length_gap hlen, List.length_map]
    rfl
  rw [addBox, addBox, ← put_withGap (by simp; omega), hnext, hboxes]
  rfl

theorem declare_withGap (hn : n ≤ st.boxes.length) (name : String) :
    (st.withGap n).declare name = (st.declare name).withGap n := by
  have hlen : (st.withGap n).slots.length = st.slots.length := by simp [withGap]
  rw [declare, declare, ← put_withGap (by simpa using hn), hlen]
  simp [withGap, Handle.raised, Slot.raised]

theorem clone_withGap (hn : n ≤ st.boxes.length) (source name : String) :
    (st.withGap n).clone source name = (st.clone source name).map (withGap n) := by
  simp [clone, find?_withGap, Function.comp_def, Handle.copy_raised, put_withGap hn]

theorem box_withGap (hn : n ≤ st.boxes.length) (source name : String) :
    (st.withGap n).box source name = (st.box source name).map (withGap n) := by
  have hboxed : ∀ h : Handle, ((st.withGap n).forget source).addBox name
      ⟨.call (h.raised n).target, [h.raised n]⟩ =
        ((st.forget source).addBox name ⟨.call h.target, [h]⟩).withGap n := by
    intro h
    rw [forget_withGap, Handle.target_raised]
    exact addBox_withGap (st.forget source) hn name ⟨.call h.target, [h]⟩
  simp [box, find?_withGap, Function.comp_def, hboxed]

theorem drop_withGap (hn : n ≤ st.boxes.length) (name : String) :
    (st.withGap n).drop name = (st.drop name).map (withGap n) := by
  have hreleased : ∀ h : Handle, ((st.withGap n).forget name).release [h.raised n] =
      ((st.forget name).release [h]).withGap n := by
    intro h
    rw [forget_withGap]
    exact release_withGap (st.forget name) hn [h]
  simp [drop, find?_withGap, Function.comp_def, hreleased]

theorem capture_withGap (n : Nat) (st : Store L ρ V) (captures : List Capture) :
    (st.withGap n).capture captures = (st.capture captures).map fun (held, after) =>
      (held.map (Handle.raised n), after.withGap n) := by
  induction captures generalizing st with
  | nil => rfl
  | cons c captures ih =>
    cases c with
    | copied name =>
      rw [capture, capture, find?_withGap]
      cases st.find? name with
      | none => rfl
      | some h => simp [ih, Function.comp_def, Handle.copy_raised]
    | moved name =>
      rw [capture, capture, find?_withGap, forget_withGap]
      cases st.find? name with
      | none => rfl
      | some h => simp [ih, Function.comp_def]

theorem resolve_withGap (n : Nat) (st : Store L ρ V) (r : ρ ⊕ String) :
    (st.withGap n).resolve r = (st.resolve r).raised n := by
  cases r with
  | inl r => rfl
  | inr name =>
    rw [resolve, resolve, find?_withGap]
    cases st.find? name with
    | none => rfl
    | some h => exact h.target_raised n

theorem assemble_withGap (n : Nat) (st : Store L ρ V) (draft : Draft L ρ V) :
    (st.withGap n).assemble draft = (st.assemble draft).map fun (d, after) =>
      (d.raised n, after.withGap n) := by
  have hresolve : (st.withGap n).resolve = fun r => (st.resolve r).raised n :=
    funext (resolve_withGap n st)
  simp [assemble, capture_withGap, Function.comp_def, Definition.raised, Grammar.rename_rename,
    hresolve]

theorem boxes_capture {captures : List Capture} {held : List Handle}
    (hc : st.capture captures = some (held, st')) : st'.boxes = st.boxes := by
  induction captures generalizing st held with
  | nil =>
    obtain ⟨-, rfl⟩ := Prod.mk.inj (Option.some.inj hc)
    rfl
  | cons c captures ih =>
    cases c with
    | copied name =>
      obtain ⟨_, _, -, -, hmore⟩ := exists_of_capture_copied hc
      exact ih hmore
    | moved name =>
      obtain ⟨_, _, -, -, hmore⟩ := exists_of_capture_moved hc
      have hboxes := ih hmore
      exact hboxes

theorem boxes_assemble (ha : st.assemble draft = some (d, st')) : st'.boxes = st.boxes :=
  boxes_capture (capture_of_assemble ha).1

theorem build_withGap (hn : n ≤ st.boxes.length) (name : String) (draft : Draft L ρ V) :
    (st.withGap n).build name draft = (st.build name draft).map (withGap n) := by
  rw [build, build, assemble_withGap]
  cases ha : st.assemble draft with
  | none => rfl
  | some result =>
    obtain ⟨d, after⟩ := result
    have hafter : n ≤ after.boxes.length := boxes_assemble ha ▸ hn
    simp [addBox_withGap after hafter]

theorem fill_withGap (hn : n ≤ st.boxes.length) (s : Nat) (d : Definition L ρ V) :
    (st.withGap n).fill s (d.raised n) = ((st.fill s d).1, (st.fill s d).2.withGap n) := by
  rw [fill, fill, slots_withGap]
  rcases st.slots[s]? with _ | _ | d' | _
  · simp [Definition.raised, release_withGap st hn]
  · simp [Slot.raised, withGap]
  · simp [Slot.raised, Definition.raised, release_withGap st hn]
  · simp [Slot.raised, Definition.raised, release_withGap st hn]

theorem define_withGap (hn : n ≤ st.boxes.length) (name : String) (draft : Draft L ρ V) :
    (st.withGap n).define name draft =
      (st.define name draft).map fun (m, after) => (m, after.withGap n) := by
  rw [define, define, assemble_withGap]
  cases ha : st.assemble draft with
  | none => rfl
  | some result =>
    obtain ⟨d, after⟩ := result
    have hafter : n ≤ after.boxes.length := boxes_assemble ha ▸ hn
    simp only [Option.map_some, Option.bind_some, find?_withGap, Option.bind_map, Function.comp_def,
      slotOf_raised]
    cases (after.find? name).bind slotOf with
    | none => rfl
    | some s => exact congrArg some (fill_withGap hafter s d)

end operations

section commands
variable [Cursor κ α] (outside : Rules L ρ V)
  (read : {β : Type} → L β → κ → Outcome κ ParseError β) (budget : Nat)

theorem rules_withGap (hn : n ≤ st.boxes.length) (r : Target ρ) :
    (st.withGap n).rules outside (r.raised n) =
      (st.rules outside r).map (·.rename (Target.raised n)) := by
  cases r with
  | rule r =>
    rw [Target.raised, rules, rules]
    cases outside r with
    | error m => rfl
    | ok g => exact congrArg Except.ok (g.rename_rename Target.rule (Target.raised n)).symm
  | slot s =>
    rw [Target.raised, rules, rules, slots_withGap]
    rcases st.slots[s]? with _ | _ | d | _ <;> rfl
  | box b =>
    rw [Target.raised, rules, rules, boxes_withGap hn]
    rcases st.boxes[b]? with _ | _ | d <;> rfl
  | unbound => rfl

theorem parser_withGap (hn : n ≤ st.boxes.length) (name : String) :
    (st.withGap n).parser outside read budget name = st.parser outside read budget name := by
  rw [parser, parser, find?_withGap, Option.map_map]
  congr 1
  funext h
  rw [Function.comp_apply, Handle.target_raised]
  exact Rules.run_rename (Target.raised n) (rules_withGap outside hn) budget (.call h.target)

theorem sight_withGap (n : Nat) (st : Store L ρ V) (h : Handle) :
    (st.withGap n).sight (h.raised n) = st.sight h := by
  cases h with
  | owner s | borrowed s =>
    rw [Handle.raised, sight, sight, slots_withGap, Option.any_map]
    simp only [Slot.isDefined_raised]
  | boxed b => rfl

theorem sightings_withGap (n : Nat) (st : Store L ρ V) :
    (st.withGap n).sightings = st.sightings := by
  have hhandles : (st.withGap n).handles = st.handles.map fun e => (e.1, e.2.raised n) := rfl
  simp [sightings, hhandles, sight_withGap, Function.comp_def]

/-- A command is answered with the gap as without it, and leaves the gap where it is. -/
theorem perform_withGap (hn : n ≤ st.boxes.length) (c : Command L ρ V κ) :
    (st.withGap n).perform outside read budget c =
      (st.perform outside read budget c).map fun (a, after) => (a, after.withGap n) := by
  cases c with
  | declare name => simp [perform, declare_withGap hn]
  | clone source name => simp [perform, clone_withGap hn, Function.comp_def]
  | box source name => simp [perform, box_withGap hn, Function.comp_def]
  | build name draft => simp [perform, build_withGap hn, Function.comp_def]
  | define name draft =>
    rw [perform, perform, define_withGap hn]
    rcases st.define name draft with _ | ⟨_ | m, after⟩ <;> rfl
  | drop name => simp [perform, drop_withGap hn, Function.comp_def]
  | parse name start => simp [perform, parser_withGap outside read budget hn, Function.comp_def]

end commands

end Store
end Forward
end Descent
