import Descent.Forward.Handle

/-!
# The store of handles

Handles are held under names in a table, or by a grammar that has captured them, and a grammar
that goes away lets go of what it holds. The store keeps the table and everything that handles
refer to, for a program that works with handles by name.
-/
namespace Descent.Forward

/-- Everything that handles refer to, and the handles held under names. Slots and boxes are
numbered in the order in which they were made; a box is none once it has gone. -/
structure Store (L : Type → Type) (ρ V : Type) where
  handles : List (String × Handle) := []
  slots : List (Slot L ρ V) := []
  boxes : List (Option (Definition L ρ V)) := []

variable {L : Type → Type} {ρ V κ α : Type}

namespace Store

/-- The handle under a name. -/
def find? (st : Store L ρ V) (name : String) : Option Handle :=
  (st.handles.find? (·.1 == name)).map (·.2)

/-- Takes a name out of the table. -/
def forget (st : Store L ρ V) (name : String) : Store L ρ V :=
  { st with handles := st.handles.filter (·.1 != name) }

/-- Every handle that is held by the definition in a slot or by a box. -/
def captured (st : Store L ρ V) : List Handle :=
  st.slots.flatMap Slot.held ++ st.boxes.flatMap boxHeld

/-- Every handle there is. -/
def allHandles (st : Store L ρ V) : List Handle :=
  st.handles.map (·.2) ++ st.captured

/-- Exchanging one part for another exchanges the handles it gives. -/
theorem perm_flatMap_set {β : Type _} (f : β → List Handle) (xs : List β) (i : Nat) (x y : β)
    (h : xs[i]? = some x) : ((xs.set i y).flatMap f ++ f x).Perm (xs.flatMap f ++ f y) := by
  induction xs generalizing i with
  | nil => simp at h
  | cons z zs ih =>
    cases i with
    | zero =>
      obtain rfl : z = x := by simpa using h
      refine List.perm_iff_count.mpr fun hd => ?_
      simp only [List.set_cons_zero, List.flatMap_cons, List.count_append]
      omega
    | succ i =>
      simp only [List.set_cons_succ, List.flatMap_cons, List.append_assoc]
      exact (ih i (by simpa using h)).append_left (f z)

/-- Lets go of handles one after the other. The owner of a slot takes the slot with it, and the
last handle to a box takes the box; what they held is let go of in turn. -/
def release (st : Store L ρ V) (pending : List Handle) : Store L ρ V :=
  match pending with
  | [] => st
  | .borrowed _ :: hs => st.release hs
  | .owner s :: hs =>
    match _h : st.slots[s]? with
    | some slot => { st with slots := st.slots.set s .dropped }.release (hs ++ slot.held)
    | none => st.release hs
  | .boxed b :: hs =>
    match _h : st.boxes[b]? with
    | some box =>
      if (st.allHandles ++ hs).contains (.boxed b) then st.release hs
      else { st with boxes := st.boxes.set b none }.release (hs ++ boxHeld box)
    | none => st.release hs
termination_by st.captured.length + pending.length
decreasing_by
  · simp
  · have hlen := (perm_flatMap_set Slot.held st.slots s slot .dropped _h).length_eq
    simp only [captured, List.length_append, List.length_cons, Slot.held, List.length_nil] at *
    omega
  · simp
  · simp
  · have hlen := (perm_flatMap_set boxHeld st.boxes b box none _h).length_eq
    simp only [captured, List.length_append, List.length_cons, boxHeld, List.length_nil] at *
    omega
  · simp

/-- Puts a handle under a name, and lets go of the one that was there. -/
def put (st : Store L ρ V) (name : String) (h : Handle) : Store L ρ V :=
  let old := (st.find? name).toList
  let st := st.forget name
  { st with handles := st.handles ++ [(name, h)] }.release old

/-- Puts a grammar into a new box. -/
def addBox (st : Store L ρ V) (name : String) (d : Definition L ρ V) : Store L ρ V :=
  { st with boxes := st.boxes ++ [some d] }.put name (.boxed st.boxes.length)

/-- A new declaration. -/
def declare (st : Store L ρ V) (name : String) : Store L ρ V :=
  { st with slots := st.slots ++ [Slot.undefined] }.put name (.owner st.slots.length)

/-- A copy of the handle `source`. -/
def clone (st : Store L ρ V) (source name : String) : Option (Store L ρ V) :=
  (st.find? source).map fun h => st.put name h.copy

/-- Moves the handle `source` into a box. -/
def box (st : Store L ρ V) (source name : String) : Option (Store L ρ V) :=
  (st.find? source).map fun h => (st.forget source).addBox name ⟨.call h.target, [h]⟩

/-- Takes hold of the captures of a draft. Gives the handles taken, and the store without those
that were moved. -/
def capture (st : Store L ρ V) : List Capture → Option (List Handle × Store L ρ V)
  | [] => some ([], st)
  | .copied name :: more =>
    match st.find? name with
    | some h => (st.capture more).map fun (held, after) => (h.copy :: held, after)
    | none => none
  | .moved name :: more =>
    match st.find? name with
    | some h => ((st.forget name).capture more).map fun (held, after) => (h :: held, after)
    | none => none

/-- What the calls of a draft refer to. -/
def resolve (st : Store L ρ V) : ρ ⊕ String → Target ρ
  | .inl r => .rule r
  | .inr name => ((st.find? name).map Handle.target).getD .unbound

/-- Builds a draft. -/
def assemble (st : Store L ρ V) (draft : Draft L ρ V) :
    Option (Definition L ρ V × Store L ρ V) :=
  (st.capture draft.captures).map fun (held, after) =>
    (⟨draft.body.rename st.resolve, held⟩, after)

/-- Builds a draft and boxes it. -/
def build (st : Store L ρ V) (name : String) (draft : Draft L ρ V) : Option (Store L ρ V) :=
  (st.assemble draft).map fun (d, after) => after.addBox name d

/-- The slot that a handle refers to. -/
def slotOf : Handle → Option Nat
  | .owner s => some s
  | .borrowed s => some s
  | .boxed _ => none

/-- Fills a slot, if it is there and still empty. A definition that is refused is let go of, and
so is what it holds. -/
def fill (st : Store L ρ V) (s : Nat) (d : Definition L ρ V) : Option Misuse × Store L ρ V :=
  match st.slots[s]? with
  | some .undefined => (none, { st with slots := st.slots.set s (.defined d) })
  | some (.defined _) => (some .forwardRedefined, st.release d.held)
  | _ => (some .droppedForward, st.release d.held)

/-- Builds a draft and defines the declaration `name` by it. -/
def define (st : Store L ρ V) (name : String) (draft : Draft L ρ V) :
    Option (Option Misuse × Store L ρ V) :=
  (st.assemble draft).bind fun (d, after) =>
    match (after.find? name).bind slotOf with
    | some s => some (after.fill s d)
    | none => none

/-- Lets go of the handle under a name. -/
def drop (st : Store L ρ V) (name : String) : Option (Store L ρ V) :=
  (st.find? name).map fun h => (st.forget name).release [h]

/-- The grammars that can be called, with rules from outside. -/
def rules (st : Store L ρ V) (outside : Rules L ρ V) : Rules L (Target ρ) V
  | .rule r => (outside r).map (·.rename .rule)
  | .slot s =>
    match st.slots[s]? with
    | some (.defined d) => .ok d.grammar
    | some .undefined => .error .undefinedForward
    | _ => .error .droppedForward
  | .box b =>
    match st.boxes[b]? with
    | some (some d) => .ok d.grammar
    | _ => .error .droppedForward
  | .unbound => .error .droppedForward

/-- Runs what the handle `name` refers to. -/
def parser [Cursor κ α] (st : Store L ρ V) (outside : Rules L ρ V)
    (read : {β : Type} → L β → κ → Outcome κ ParseError β) (budget : Nat) (name : String) :
    Option (Parser κ V) :=
  (st.find? name).map fun h => (st.rules outside).run read budget (.call h.target)

/-- What is shown of a handle. -/
inductive Sighting where
  | forward (owner defined : Bool)
  | boxed

/-- Whether a handle owns its slot and whether the slot has a definition. -/
def sight (st : Store L ρ V) : Handle → Sighting
  | .owner s => .forward true (st.slots[s]?.any Slot.isDefined)
  | .borrowed s => .forward false (st.slots[s]?.any Slot.isDefined)
  | .boxed _ => .boxed

/-- All handles in the table. -/
def sightings (st : Store L ρ V) : List (String × Sighting) :=
  st.handles.map fun (name, h) => (name, st.sight h)

end Store
end Descent.Forward
