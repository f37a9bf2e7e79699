import Descent.Forward.Store

/-!
# Programs with forward declarations

A program that works with forward declarations is a list of commands, each of which changes the
store of handles or runs what a handle refers to. A command that names a handle which is not in
the table is not carried out.
-/
namespace Descent.Forward

/-- What can be done with the handles of a store. -/
inductive Command (L : Type → Type) (ρ V κ : Type) where
  | declare (name : String)
  | clone (source name : String)
  | box (source name : String)
  | build (name : String) (draft : Draft L ρ V)
  | define (name : String) (draft : Draft L ρ V)
  | drop (name : String)
  | parse (name : String) (start : κ)

/-- What a command answers. -/
inductive Answer (V κ : Type) where
  | done
  | defined
  | refused (m : Misuse)
  | parsed (r : Run κ V)

variable {L : Type → Type} {ρ V κ α : Type} [Cursor κ α]

/-- Carries out a command. -/
def Store.perform (outside : Rules L ρ V)
    (read : {β : Type} → L β → κ → Outcome κ ParseError β) (budget : Nat) (st : Store L ρ V) :
    Command L ρ V κ → Option (Answer V κ × Store L ρ V)
  | .declare name => some (.done, st.declare name)
  | .clone source name => (st.clone source name).map (.done, ·)
  | .box source name => (st.box source name).map (.done, ·)
  | .build name draft => (st.build name draft).map (.done, ·)
  | .define name draft =>
    (st.define name draft).map fun
      | (none, st) => (.defined, st)
      | (some m, st) => (.refused m, st)
  | .drop name => (st.drop name).map (.done, ·)
  | .parse name start => (st.parser outside read budget name).map fun p => (.parsed (p start), st)

/-- Carries out a list of commands. Gives the answers and the store at the end. -/
def Store.performAll (outside : Rules L ρ V)
    (read : {β : Type} → L β → κ → Outcome κ ParseError β) (budget : Nat) (st : Store L ρ V) :
    List (Command L ρ V κ) → Option (List (Answer V κ) × Store L ρ V)
  | [] => some ([], st)
  | c :: cs =>
    (st.perform outside read budget c).bind fun (a, st) =>
      (st.performAll outside read budget cs).map fun (as, st) => (a :: as, st)

end Descent.Forward
