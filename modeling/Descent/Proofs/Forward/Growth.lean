import Descent.Proofs.Forward.Renumbering

/-!
# The boxes that have been made

The number of a box is never given to another box, even after the box has gone, and what the
definitions of a store refer to are boxes that have been made before. So a gap after all boxes is no
more than a number that is used up, and a program answers with it as without it.
-/
namespace Descent.Forward

variable {L : Type → Type} {ρ V κ α : Type}

namespace Store
variable {st st' : Store L ρ V} {pending : List Handle} {h : Handle} {d : Definition L ρ V}
  {n : Nat} {name : String}

/-- The definition is in a slot or in a box. -/
def Has (st : Store L ρ V) (d : Definition L ρ V) : Prop :=
  (∃ s : Nat, st.slots[s]? = some (.defined d)) ∨ ∃ b : Nat, st.boxes[b]? = some (some d)

/-- All boxes that the definitions of the store call have been made. -/
def CallsMade (st : Store L ρ V) : Prop :=
  ∀ d, st.Has d → d.grammar.AllCalls (Target.Below st.boxes.length)

/-- What any command does to the definitions: no number of a box is given back, and a definition
that is new calls only boxes that have been made. -/
structure Grows (st st' : Store L ρ V) : Prop where
  length_le : st.boxes.length ≤ st'.boxes.length
  has : ∀ d, st'.Has d → st.Has d ∨ d.grammar.AllCalls (Target.Below st'.boxes.length)

theorem Grows.of_eq (hslots : st'.slots = st.slots) (hboxes : st'.boxes = st.boxes) :
    Grows st st' where
  length_le := hboxes ▸ Nat.le_refl _
  has d hd := by
    rw [Has, hslots, hboxes] at hd
    exact Or.inl hd

theorem Grows.trans {st'' : Store L ρ V} (h : Grows st st') (h' : Grows st' st'') :
    Grows st st'' where
  length_le := Nat.le_trans h.length_le h'.length_le
  has d hd := by
    rcases h'.has d hd with hd' | hnew
    · exact (h.has d hd').imp_right fun hcalls => hcalls.mono fun r => .mono h'.length_le
    · exact Or.inr hnew

theorem Grows.callsMade (h : Grows st st') (hst : st.CallsMade) : st'.CallsMade := by
  intro d hd
  rcases h.has d hd with hd' | hnew
  · exact (hst d hd').mono fun r => .mono h.length_le
  · exact hnew

theorem grows_release (st : Store L ρ V) (pending : List Handle) :
    Grows st (st.release pending) where
  length_le := (length_boxes_release st pending).ge
  has d hd := by
    refine Or.inl ?_
    rcases hd with ⟨s, hs⟩ | ⟨b, hb⟩
    · rcases wanes_release st pending s with he | ⟨hdropped, -⟩
      · exact Or.inl ⟨s, he ▸ hs⟩
      · simp [hs] at hdropped
    · rcases boxes_release st pending b with he | hgone
      · exact Or.inr ⟨b, he ▸ hb⟩
      · simp [hb] at hgone

theorem grows_forget (st : Store L ρ V) (name : String) : Grows st (st.forget name) :=
  .of_eq rfl rfl

theorem grows_put (st : Store L ρ V) (name : String) (h : Handle) : Grows st (st.put name h) := by
  have hadded : Grows st
      { st.forget name with handles := (st.forget name).handles ++ [(name, h)] } := .of_eq rfl rfl
  exact hadded.trans (grows_release _ _)

theorem grows_addBox (st : Store L ρ V) (name : String)
    (hd : d.grammar.AllCalls (Target.Below st.boxes.length)) : Grows st (st.addBox name d) := by
  refine Grows.trans ⟨by simp, fun d' hd' => ?_⟩ (grows_put _ _ _)
  rcases hd' with hslot | ⟨b, hb⟩
  · exact Or.inl (Or.inl hslot)
  · rw [getElem?_append_one] at hb
    split at hb
    · obtain rfl : d = d' := Option.some.inj (Option.some.inj hb)
      exact Or.inr (hd.mono fun r => .mono (by simp))
    · exact Or.inl (Or.inr ⟨b, hb⟩)

theorem grows_declare (st : Store L ρ V) (name : String) : Grows st (st.declare name) := by
  refine Grows.trans ⟨by simp, fun d hd => Or.inl ?_⟩ (grows_put _ _ _)
  rcases hd with ⟨s, hs⟩ | hbox
  · rw [getElem?_append_one] at hs
    split at hs
    · simp at hs
    · exact Or.inl ⟨s, hs⟩
  · exact Or.inr hbox

theorem grows_fill (st : Store L ρ V) (s : Nat)
    (hd : d.grammar.AllCalls (Target.Below st.boxes.length)) : Grows st (st.fill s d).2 := by
  rw [fill]
  split
  · refine ⟨Nat.le_refl _, fun d' hd' => ?_⟩
    rcases hd' with ⟨s', hs'⟩ | hbox
    · rw [List.getElem?_set] at hs'
      split at hs'
      · split at hs'
        · obtain rfl : d = d' := Slot.defined.inj (Option.some.inj hs')
          exact Or.inr hd
        · simp at hs'
      · exact Or.inl (Or.inl ⟨s', hs'⟩)
    · exact Or.inl (Or.inr hbox)
  · exact grows_release _ _
  · exact grows_release _ _

theorem Tally.below_target (t : st.Tally pending) (hh : h ∈ st.allHandles ++ pending) :
    (h.target : Target ρ).Below st.boxes.length := by
  cases h with
  | owner s | borrowed s => trivial
  | boxed b =>
    obtain ⟨d, hb⟩ := (t.alive_iff_mem (.box b)).mpr hh
    exact (List.getElem?_eq_some_iff.mp hb).1

/-- A draft is built to call boxes that the table has handles to. -/
theorem Tally.below_assemble {draft : Draft L ρ V} (t : st.Tally [])
    (ha : st.assemble draft = some (d, st')) :
    d.grammar.AllCalls (Target.Below st'.boxes.length) := by
  rw [boxes_assemble ha, (capture_of_assemble ha).2]
  refine Grammar.allCalls_rename (fun r => ?_) draft.body
  cases r with
  | inl r => trivial
  | inr name =>
    rw [resolve]
    cases hf : st.find? name with
    | none => trivial
    | some h => exact t.below_target (List.mem_append_left [] (find?_mem hf))

variable [Cursor κ α] {outside : Rules L ρ V}
  {read : {β : Type} → L β → κ → Outcome κ ParseError β} {budget : Nat}
  {c : Command L ρ V κ} {cs : List (Command L ρ V κ)} {a : Answer V κ} {as : List (Answer V κ)}

theorem Tally.grows_perform (t : st.Tally [])
    (hp : st.perform outside read budget c = some (a, st')) : Grows st st' := by
  cases c with
  | declare name =>
    obtain ⟨-, rfl⟩ := Prod.mk.inj (Option.some.inj hp)
    exact grows_declare st name
  | clone source name =>
    obtain ⟨h, -, rfl⟩ := Option.map_eq_some_iff.mp (eq_some_of_map hp)
    exact grows_put st name h.copy
  | box source name =>
    obtain ⟨h, hf, rfl⟩ := Option.map_eq_some_iff.mp (eq_some_of_map hp)
    have hbelow : (h.target : Target ρ).Below (st.forget source).boxes.length :=
      t.below_target (List.mem_append_left [] (find?_mem hf))
    exact (grows_forget st source).trans
      (grows_addBox (d := ⟨.call h.target, [h]⟩) (st.forget source) name hbelow)
  | build name draft =>
    obtain ⟨⟨d, after⟩, ha, rfl⟩ := Option.map_eq_some_iff.mp (eq_some_of_map hp)
    exact (Grows.of_eq (assemble_frame ha).1 (boxes_assemble ha)).trans
      (grows_addBox after name (t.below_assemble ha))
  | define name draft =>
    obtain ⟨d, after, s, ha, -, -, rfl⟩ := exists_of_perform_define hp
    exact (Grows.of_eq (assemble_frame ha).1 (boxes_assemble ha)).trans
      (grows_fill after s (t.below_assemble ha))
  | drop name =>
    obtain ⟨h, -, rfl⟩ := Option.map_eq_some_iff.mp (eq_some_of_map hp)
    exact (grows_forget st name).trans (grows_release (st.forget name) [h])
  | parse name start =>
    obtain ⟨_, _, he⟩ := Option.map_eq_some_iff.mp hp
    obtain ⟨-, rfl⟩ := Prod.mk.inj he
    exact .of_eq rfl rfl

theorem Tally.grows_performAll (t : st.Tally [])
    (hp : st.performAll outside read budget cs = some (as, st')) : Grows st st' := by
  induction cs generalizing st as with
  | nil =>
    obtain ⟨-, rfl⟩ := Prod.mk.inj (Option.some.inj hp)
    exact .of_eq rfl rfl
  | cons c cs ih =>
    obtain ⟨a, as', next, -, hperform, hrest⟩ := exists_of_performAll_cons hp
    exact (t.grows_perform hperform).trans (ih (t.perform hperform) hrest)

theorem callsMade_empty : ({} : Store L ρ V).CallsMade := by
  intro d hd
  simp [Has] at hd

/-- Programs answer with the gap as without it. -/
theorem Tally.performAll_withGap (t : st.Tally []) (hn : n ≤ st.boxes.length)
    (outside : Rules L ρ V) (read : {β : Type} → L β → κ → Outcome κ ParseError β) (budget : Nat)
    (cs : List (Command L ρ V κ)) :
    (st.withGap n).performAll outside read budget cs =
      (st.performAll outside read budget cs).map fun (as, after) => (as, after.withGap n) := by
  induction cs generalizing st with
  | nil => rfl
  | cons c cs ih =>
    rw [Store.performAll, Store.performAll, perform_withGap outside read budget hn]
    cases hp : st.perform outside read budget c with
    | none => rfl
    | some result =>
      obtain ⟨a, next⟩ := result
      have hnext : n ≤ next.boxes.length := Nat.le_trans hn (t.grows_perform hp).length_le
      simp only [Option.map_some, Option.bind_some, ih (t.perform hp) hnext, Option.map_map]
      rfl

/-- Every handle refers to a box that has been made, or to none. -/
theorem Tally.raised_eq_self (t : st.Tally pending) (hh : h ∈ st.allHandles ++ pending) :
    h.raised st.boxes.length = h :=
  Handle.raised_of_below (t.below_target hh : h.target.Below _)

theorem Tally.raised_definition (t : st.Tally pending) (hst : st.CallsMade) (hd : st.Has d) :
    d.raised st.boxes.length = d := by
  have hgrammar : d.grammar.rename (Target.raised st.boxes.length) = d.grammar :=
    Grammar.rename_eq_self ((hst d hd).mono fun _ => Target.raised_of_below)
  have hheld : d.held ⊆ st.captured := by
    intro h hh
    rw [mem_captured_iff]
    rcases hd with ⟨s, hs⟩ | ⟨b, hb⟩
    · exact ⟨.slot s, by simpa [holdings, hs, Slot.held] using hh⟩
    · exact ⟨.box b, by simpa [holdings, hb, boxHeld] using hh⟩
  have hraised : d.held.map (Handle.raised st.boxes.length) = d.held.map id :=
    List.map_congr_left fun h hh =>
      t.raised_eq_self (List.mem_append_left _ (List.mem_append_right _ (hheld hh)))
  rw [Definition.raised, hgrammar, hraised, List.map_id]

/-- Nothing refers to a box that has not been made, so that a gap after all boxes is one more box
that is gone. -/
theorem Tally.withGap_length (t : st.Tally pending) (hst : st.CallsMade) :
    st.withGap st.boxes.length = { st with boxes := st.boxes ++ [none] } := by
  have hhandles : st.handles.map (fun e => (e.1, e.2.raised st.boxes.length)) =
      st.handles.map id := by
    refine List.map_congr_left fun e he => ?_
    have hmem : e.2 ∈ st.allHandles := List.mem_append_left _ (List.mem_map_of_mem he)
    rw [t.raised_eq_self (List.mem_append_left _ hmem)]
    rfl
  have hslots : st.slots.map (Slot.raised st.boxes.length) = st.slots.map id := by
    refine List.map_congr_left fun slot hslot => ?_
    obtain ⟨s, hs⟩ := List.mem_iff_getElem?.mp hslot
    cases slot with
    | defined d => exact congrArg Slot.defined (t.raised_definition hst (Or.inl ⟨s, hs⟩))
    | undefined | dropped => rfl
  have hboxes : st.boxes.map (Option.map (Definition.raised st.boxes.length)) =
      st.boxes.map id := by
    refine List.map_congr_left fun box hbox => ?_
    obtain ⟨b, hb⟩ := List.mem_iff_getElem?.mp hbox
    cases box with
    | some d => exact congrArg some (t.raised_definition hst (Or.inr ⟨b, hb⟩))
    | none => rfl
  simp only [withGap, hhandles, hslots, hboxes, List.map_id, gap_length_self]

end Store
end Descent.Forward
