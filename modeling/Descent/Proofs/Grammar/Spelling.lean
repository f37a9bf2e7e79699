import Descent.Atom.Token
import Descent.Cursor.Elements
import Descent.Proofs.Grammar.Bracketing

/-!
# Spelling

A literal goes through its atoms and stops at the first that does not come next. So it can be cut
anywhere: the part before the cut and then the part behind it end as the whole does, and so do the
single atoms one after the other. This asks nothing of the equality of atoms, and nothing of the
place where the literal begins.
-/
namespace Descent

/-- Where a success leaves off, or why it is a failure. -/
def Outcome.leavesOff {κ ε β : Type} : Outcome κ ε β → Except ε κ
  | success _ rest => .ok rest
  | failure e => .error e

/-- Both runs succeed and leave off at one place, the first of them with the value `v`, or both fail
with the same error. -/
def Run.EndTogether {κ β γ : Type} (v : β) (r : Run κ β) (s : Run κ γ) : Prop :=
  (∃ w d, r.outcome? = some (.success v d) ∧ s.outcome? = some (.success w d)) ∨
    ∃ e, r.outcome? = some (.failure e) ∧ s.outcome? = some (.failure e)

namespace Leaf
variable {κ α : Type} [Cursor κ α] [BEq α] [Atom α]

/-- A round of a literal: the place behind the atom `x`, if that comes next. -/
def stepOver (c : κ) (x : α) : Except ParseError κ :=
  match Cursor.value? c with
  | none => .error (.endOfInput (Cursor.location c))
  | some a =>
    if a == x then .ok (Cursor.next c)
    else .error (.unexpected (Atom.describe x) (Atom.describe a) (Cursor.location c))

theorem leavesOff_readExactly (x : α) (c : κ) : (readExactly x c).leavesOff = stepOver c x := by
  rw [readExactly, readSatisfying, stepOver]
  cases Cursor.value? c with
  | none => rfl
  | some a =>
    dsimp only
    split <;> rfl

/-- A literal is a single loop, each round of which starts where the one before it left off. -/
theorem readLiteral_eq (xs : List α) (c : κ) :
    readLiteral xs c =
      match xs.foldlM stepOver c with
      | .ok d => .success xs d
      | .error e => .failure e := by
  induction xs generalizing c with
  | nil => rfl
  | cons x xs ih =>
    rw [readLiteral, List.foldlM_cons, ← leavesOff_readExactly]
    cases readExactly x c with
    | failure e => rfl
    | success a d =>
      -- The atom `a` that was found is dropped: the value has `x`, which need not be the same.
      change (readLiteral xs d).map _ = match xs.foldlM stepOver d with | .ok d => _ | .error e => _
      rw [ih d]
      cases xs.foldlM stepOver d <;> rfl

theorem leavesOff_readLiteral (xs : List α) (c : κ) :
    (readLiteral xs c).leavesOff = xs.foldlM stepOver c := by
  rw [readLiteral_eq]
  cases xs.foldlM stepOver c <;> rfl

theorem value_of_readLiteral {xs ys : List α} {c d : κ} (h : readLiteral xs c = .success ys d) :
    ys = xs := by
  rw [readLiteral_eq] at h
  split at h
  · exact (Outcome.success.inj h).1.symm
  · cases h

end Leaf

namespace Parser
variable {κ α β γ : Type} [Cursor κ α] [BEq α] [Atom α] {p : Parser κ β} {q : Parser κ γ}
  {xs ys : List α}

/-- Wherever it is run, `p` leaves off or fails as the loop through the atoms `xs` does. -/
def AsksFor (p : Parser κ β) (xs : List α) : Prop :=
  ∀ c, (p c).outcome?.map Outcome.leavesOff = some (xs.foldlM Leaf.stepOver c)

/-- The second parser starts where the first one left off, and so the two loops are one. -/
theorem AsksFor.bind (hp : p.AsksFor xs) (hq : q.AsksFor ys) :
    (p.bind fun _ => q).AsksFor (xs ++ ys) := by
  intro c
  obtain ⟨o, ho, hloop⟩ := Option.map_eq_some_iff.mp (hp c)
  rw [List.foldlM_append, ← hloop, Parser.bind, Run.andThen]
  cases o with
  | success v d =>
    rw [Run.continueWith_of_success ho, Run.outcome?_after]
    exact hq d
  | failure e =>
    rw [Run.continueWith_of_failure ho]
    rfl

theorem AsksFor.defer (label : Option String) (hp : p.AsksFor xs) : (p.defer label).AsksFor xs :=
  hp

theorem AsksFor.endTogether {v : β} {c : κ} (hp : p.AsksFor xs) (hq : q.AsksFor xs)
    (hvalue : ∀ w d, (p c).outcome? = some (.success w d) → w = v) :
    Run.EndTogether v (p c) (q c) := by
  obtain ⟨o, ho, hloop⟩ := Option.map_eq_some_iff.mp (hp c)
  obtain ⟨o', ho', hloop'⟩ := Option.map_eq_some_iff.mp (hq c)
  have hsame : o.leavesOff = o'.leavesOff := hloop.trans hloop'.symm
  cases o with
  | success w d =>
    obtain rfl := hvalue w d ho
    cases o' with
    | success w' d' =>
      obtain rfl := Except.ok.inj hsame
      exact Or.inl ⟨w', d, ho, ho'⟩
    | failure e' => cases hsame
  | failure e =>
    cases o' with
    | success w' d' => cases hsame
    | failure e' =>
      obtain rfl := Except.error.inj hsame
      exact Or.inr ⟨e, ho, ho'⟩

end Parser

/-- The sequence asks for the atoms one by one, and from left to right they are `xs`. -/
inductive Sequence.OneByOne {α : Type} : {β : Type} → Sequence (Leaf α) β → List α → Prop where
  | one (x : α) : OneByOne (.one (.exactly x)) [x]
  | both {β γ : Type} {label : Option String} {s : Sequence (Leaf α) γ} {t : Sequence (Leaf α) β}
    {xs ys : List α} (hs : OneByOne s xs) (ht : OneByOne t ys) :
    OneByOne (.both label s t) (xs ++ ys)

theorem Sequence.exists_oneByOne {α : Type} {xs : List α} (h : xs ≠ []) :
    ∃ t : Sequence (Leaf α) α, t.OneByOne xs := by
  induction xs with
  | nil => exact absurd rfl h
  | cons x xs ih =>
    cases xs with
    | nil => exact ⟨_, .one x⟩
    | cons y ys =>
      obtain ⟨t, ht⟩ := ih (List.cons_ne_nil y ys)
      exact ⟨.both none (.one (.exactly x)) t, .both (.one x) ht⟩

section
variable {L : Type → Type} {ρ V κ α : Type} [Cursor κ α] [BEq α] [Atom α]
  {lift : {β : Type} → Leaf α β → L β} {read : {β : Type} → L β → κ → Outcome κ ParseError β}
  (hread : ∀ {β : Type} (l : Leaf α β) (c : κ), read (lift l) c = l.read c)
  (rules : Rules L ρ V) (budget : Nat)
include hread

theorem Leaf.asksFor {β : Type} {l : Leaf α β} {xs : List α}
    (h : ∀ c : κ, (l.read c).leavesOff = xs.foldlM stepOver c) :
    (rules.run read budget (.leaf (lift l))).AsksFor xs := by
  intro c
  change (Run.ofOutcome (read (lift l) c)).outcome?.map _ = _
  rw [Run.outcome?_ofOutcome, hread, Option.map_some, h]

theorem asksFor_literal (xs : List α) :
    (rules.run read budget (.leaf (lift (.literal xs)))).AsksFor xs :=
  Leaf.asksFor hread rules budget (Leaf.leavesOff_readLiteral xs)

theorem Sequence.OneByOne.asksFor {β : Type} {t : Sequence (Leaf α) β} {xs : List α}
    (h : t.OneByOne xs) :
    (rules.run read budget (t.map fun l => Grammar.leaf (lift l)).grammar).AsksFor xs := by
  induction h with
  | one x =>
    refine Leaf.asksFor hread rules budget fun c => ?_
    rw [List.foldlM_cons]
    exact (Leaf.leavesOff_readExactly x c).trans (bind_pure _).symm
  | both _ _ ihs iht => exact ihs.bind (iht.defer _)

theorem literal_endTogether {β : Type} {xs : List α} {g : Grammar L ρ V β}
    (h : (rules.run read budget g).AsksFor xs) (c : κ) :
    Run.EndTogether xs (rules.run read budget (.leaf (lift (.literal xs))) c)
      (rules.run read budget g c) := by
  refine (asksFor_literal hread rules budget xs).endTogether h fun ys d hsuccess => ?_
  change (Run.ofOutcome (read (lift (.literal xs)) c)).outcome? = _ at hsuccess
  rw [Run.outcome?_ofOutcome, hread] at hsuccess
  exact Leaf.value_of_readLiteral (Option.some.inj hsuccess)

end

/-- A literal is the sequence of its atoms. At every cursor, and whatever the equality of atoms is,
the literal of two lists joined leaves off where the literal of the first and then that of the
second do, or fails with the same error, and likewise with the atoms asked for one by one, however
they are bracketed. Its value is the list that was asked for. The leaves may be some among others,
`lift` taking them there. -/
theorem literal_is_sequence_of_atoms {L : Type → Type} {ρ V κ α : Type} [Cursor κ α] [BEq α]
    [Atom α] (lift : {β : Type} → Leaf α β → L β)
    (read : {β : Type} → L β → κ → Outcome κ ParseError β)
    (hread : ∀ {β : Type} (l : Leaf α β) (c : κ), read (lift l) c = l.read c)
    (rules : Rules L ρ V) (budget : Nat) (c : κ) :
    (∀ (label : Option String) (xs ys : List α),
      Run.EndTogether (xs ++ ys)
        (rules.run read budget (.leaf (lift (.literal (xs ++ ys)))) c)
        (rules.run read budget
          ((Grammar.leaf (lift (.literal xs))).andThen
            (.defer label (.leaf (lift (.literal ys))))) c)) ∧
    ∀ xs : List α, xs ≠ [] →
      (∃ t : Sequence (Leaf α) α, t.OneByOne xs) ∧
      ∀ {β : Type} (t : Sequence (Leaf α) β), t.OneByOne xs →
        Run.EndTogether xs
          (rules.run read budget (.leaf (lift (.literal xs))) c)
          (rules.run read budget (t.map fun l => Grammar.leaf (lift l)).grammar c) := by
  refine ⟨fun label xs ys => ?_, fun xs hne => ⟨Sequence.exists_oneByOne hne, fun t ht => ?_⟩⟩
  · have hxs := asksFor_literal hread rules budget xs
    have hys := asksFor_literal hread rules budget ys
    refine literal_endTogether hread rules budget ?_ c
    exact hxs.bind (hys.defer label)
  · exact literal_endTogether hread rules budget (ht.asksFor hread rules budget) c

/-- On "été", the literal "éta" fails as "ét" and then "a" do, behind the second letter. A token
that does not equal itself stops a literal and the sequence of its tokens at the same place. -/
theorem literal_is_sequence_of_atoms_parting :
    (let rules : Rules TextLeaf Empty Unit := fun r => r.elim
      let c := TextCursor.start ⟨0, ['é', 't', 'é']⟩
      let whole := rules.run TextLeaf.read 0 (.leaf (.inl (.literal ['é', 't', 'a']))) c
      let parts := rules.run TextLeaf.read 0
        ((Grammar.leaf (.inl (.literal ['é', 't']))).andThen
          (.defer (some "a") (.leaf (.inl (.literal ['a']))))) c
      Run.EndTogether ['é', 't', 'a'] whole parts ∧
        parts.outcome? =
          some (.failure (.unexpected (Atom.describe 'a') (Atom.describe 'é') ⟨3, 1, 3⟩))) ∧
    let rules : Rules (Leaf Token) Empty Unit := fun r => r.elim
    let c : ElementCursor Token := .within ⟨0, [.comma, .never, .closing]⟩ 0
    let t : Sequence (Leaf Token) Token :=
      .both none (.both (some "never") (.one (.exactly .comma)) (.one (.exactly .never)))
        (.one (.exactly .closing))
    let whole := rules.run Leaf.read 0 (.leaf (.literal [.comma, .never, .closing])) c
    let chain := rules.run Leaf.read 0 (t.map Grammar.leaf).grammar c
    t.OneByOne [.comma, .never, .closing] ∧
      Run.EndTogether [.comma, .never, .closing] whole chain ∧
      chain.outcome? = some (.failure (.unexpected "Never" "Never" ⟨1, 1, 1⟩)) := by
  constructor
  · intro rules c whole parts
    have h := literal_is_sequence_of_atoms (fun l => Sum.inl l) TextLeaf.read (fun _ _ => rfl) rules
      0 c
    exact ⟨h.1 (some "a") ['é', 't'] ['a'], rfl⟩
  · intro rules c t whole chain
    have h := literal_is_sequence_of_atoms (fun l => l) Leaf.read (fun _ _ => rfl) rules 0 c
    have ht : t.OneByOne [.comma, .never, .closing] :=
      .both (.both (.one Token.comma) (.one .never)) (.one .closing)
    exact ⟨ht, (h.2 _ (List.cons_ne_nil _ _)).2 t ht, rfl⟩

end Descent
