import Descent.Proofs.Cursor.Order
import Descent.Proofs.Grammar.Outcomes

/-!
# Rounds of a repetition

A repetition goes through rounds, each of which begins where the one before it left off, at a later
place. It stops at the first place where its element fails or takes nothing, and yields the values
of all rounds, that of an empty last one included. It cannot fail, and it starts its element once
for every round and once more.
-/
namespace Descent

/-- Rounds of a loop and the values they yield: each begins where the one before it left off. -/
inductive Rounds {κ β : Type} (round : κ → β → κ → Prop) : κ → List β → κ → Prop where
  | nil (c : κ) : Rounds round c [] c
  | cons {c d last : κ} {v : β} {vs : List β} (h : round c v d) (hs : Rounds round d vs last) :
    Rounds round c (v :: vs) last

/-- Whether the event is the start of the named part. -/
def Event.starts (name : String) : Event → Bool
  | entered name' _ => name' == name
  | _ => false

namespace Run
variable {κ β γ : Type} {name : String}

/-- How often the named part was started. -/
def starts (name : String) (r : Run κ β) : Nat :=
  r.log.countP (Event.starts name)

theorem starts_after (log : List Event) (r : Run κ β) :
    (r.after log).starts name = log.countP (Event.starts name) + r.starts name :=
  List.countP_append

theorem starts_continueWith_le {r : Run κ β} {f : β → κ → Run κ γ} {g : ParseError → Run κ γ}
    {m n : Nat} (hr : r.starts name ≤ m)
    (hf : ∀ v c, r.outcome? = some (.success v c) → (f v c).starts name ≤ n)
    (hg : ∀ e, r.outcome? = some (.failure e) → (g e).starts name ≤ n) :
    (r.continueWith f g).starts name ≤ m + n := by
  rcases ho : r.outcome? with _ | ⟨v, c⟩ | e
  · rw [continueWith_of_none ho]
    exact Nat.le_add_right_of_le hr
  · rw [continueWith_of_success ho, starts_after]
    exact Nat.add_le_add hr (hf v c ho)
  · rw [continueWith_of_failure ho, starts_after]
    exact Nat.add_le_add hr (hg e ho)

theorem starts_map_le (r : Run κ β) (f : β → γ) : (r.map f).starts name ≤ r.starts name :=
  starts_continueWith_le (n := 0) (Nat.le_refl _) (fun _ _ _ => Nat.le_refl 0)
    fun _ _ => Nat.le_refl 0

end Run

namespace Parser
variable {κ α β γ : Type} [Cursor κ α] {good : κ → Prop} {p : Parser κ β} {name : String}

theorem starts_traced_le (hp : ∀ c, (p c).starts name = 0) (c : κ) :
    (p.traced name c).starts name ≤ 1 := by
  have hrun := Run.starts_continueWith_le (n := 0) (Nat.le_of_eq (hp c))
    (f := fun v rest => (Run.success v rest).after [.left name (Cursor.position rest)])
    (g := fun e => (Run.failure e).after [.gaveUp name])
    (fun _ _ _ => Nat.le_refl 0) fun _ _ => Nat.le_refl 0
  have hstart : [Event.entered name (Cursor.position c)].countP (Event.starts name) ≤ 1 :=
    List.countP_le_length
  rw [Parser.traced, Run.starts_after]
  omega

/-- A repetition starts its element at most once for every remaining atom and once more. -/
theorem starts_many_le (w : Cursor.Ordered good) (hadv : p.Advances good)
    (hp : ∀ c, (p c).starts name ≤ 1) (budget : Nat) {c : κ} (hc : good c) :
    (p.many budget c).starts name ≤ (Cursor.remaining c).length + 1 := by
  induction budget generalizing c with
  | zero => exact Nat.zero_le _
  | succ budget ih =>
    rw [Parser.many, Nat.add_comm]
    refine Run.starts_continueWith_le (hp c) (fun v d hd => ?_) fun _ _ => Nat.zero_le _
    split
    · exact Nat.zero_le _
    · next hmove =>
      -- Only a round that has moved is followed by another one, and it leaves fewer atoms.
      have hcd := hadv c v d hc hd
      rcases w.eq_or_precedes hc hcd with rfl | hlater
      · exact absurd (w.beq_self hc) hmove
      · calc
          ((p.many budget d).map (v :: ·)).starts name ≤ (p.many budget d).starts name :=
            Run.starts_map_le _ _
          _ ≤ (Cursor.remaining d).length + 1 := ih (hcd.preserves w.next_mem hc)
          _ ≤ (Cursor.remaining c).length := w.length_lt hc hlater

/-- A repetition does not fail, wherever its element leaves off. -/
theorem success_of_many {budget : Nat} {c : κ} {o : Outcome κ ParseError (List β)}
    (h : (p.many budget c).outcome? = some o) : ∃ vs rest, o = .success vs rest := by
  induction budget generalizing c o with
  | zero => simp [Parser.many, Parser.diverge] at h
  | succ budget ih =>
    rw [Parser.many] at h
    rcases Run.ends_of_continueWith h with ⟨v, d, _, ho⟩ | ⟨e, _, ho⟩
    · split at ho
      · exact ⟨[v], c, (Option.some.inj ho).symm⟩
      · obtain ⟨o', ho', rfl⟩ := Run.ends_of_map ho
        obtain ⟨vs, rest, rfl⟩ := ih ho'
        exact ⟨v :: vs, rest, rfl⟩
    · exact ⟨[], c, (Option.some.inj ho).symm⟩

end Parser

namespace Rules
variable {L : Type → Type} {ρ V κ α β : Type} [Cursor κ α] {good : κ → Prop}

/-- From the cursors of the set, every success of the grammar leaves off where walking leads. -/
def Advances (rules : Rules L ρ V) (read : {β : Type} → L β → κ → Outcome κ ParseError β)
    (good : κ → Prop) (p : Grammar L ρ V β) : Prop :=
  ∀ c v d, good c → rules.EndsWith read p c (.success v d) → Cursor.Reaches c d

/-- The grammar takes `c` to the later place `d`, with the value `v`. -/
def Round (rules : Rules L ρ V) (read : {β : Type} → L β → κ → Outcome κ ParseError β)
    (p : Grammar L ρ V β) (c : κ) (v : β) (d : κ) : Prop :=
  rules.EndsWith read p c (.success v d) ∧ Cursor.Precedes c d

variable {rules : Rules L ρ V} {read : {β : Type} → L β → κ → Outcome κ ParseError β}
  {p : Grammar L ρ V β} {c : κ} {o : Outcome κ ParseError (List β)}

theorem advances_of_allLeaves (hnext : ∀ c, good c → good (Cursor.next c))
    (hrules : rules.AllLeaves (Onward read good)) (hp : p.AllLeaves (Onward read good)) :
    rules.Advances read good p :=
  fun c v d hc ⟨n, hn⟩ => run_advances hnext hrules hp n c v d hc (hn n (Nat.le_refl n))

theorem Advances.run (h : rules.Advances read good p) (budget : Nat) :
    (rules.run read budget p).Advances good :=
  fun c v d hc hd => h c v d hc (endsWith_of_run hd)

theorem reaches_of_rounds {vs : List β} {last : κ} (h : Rounds (rules.Round read p) c vs last) :
    Cursor.Reaches c last := by
  induction h with
  | nil c => exact Cursor.Reaches.refl c
  | cons h _ ih => exact h.2.1.trans ih

/-- Rounds from `c` yield the outcome `o`: they go on to a place where the grammar fails, or where
it succeeds and takes nothing, which yields one more value. -/
def RoundsTo (rules : Rules L ρ V) (read : {β : Type} → L β → κ → Outcome κ ParseError β)
    (p : Grammar L ρ V β) (c : κ) (o : Outcome κ ParseError (List β)) : Prop :=
  ∃ vs last, Rounds (rules.Round read p) c vs last ∧
    ((∃ e, rules.EndsWith read p last (.failure e)) ∧ o = .success vs last ∨
      ∃ v, rules.EndsWith read p last (.success v last) ∧ o = .success (vs ++ [v]) last)

theorem RoundsTo.cons {v : β} {d : κ} (h : rules.RoundsTo read p d o)
    (hround : rules.Round read p c v d) :
    rules.RoundsTo read p c (o.map fun vs _ => v :: vs) := by
  obtain ⟨vs, last, hrounds, ⟨he, rfl⟩ | ⟨v', hv', rfl⟩⟩ := h
  · exact ⟨v :: vs, last, .cons hround hrounds, Or.inl ⟨he, rfl⟩⟩
  · exact ⟨v :: vs, last, .cons hround hrounds, Or.inr ⟨v', hv', rfl⟩⟩

section
variable (w : Cursor.Ordered good) (hp : rules.Advances read good p) (hc : good c)
include w hp hc

theorem EndsWith.roundsTo (h : rules.EndsWith read (.many p) c o) : rules.RoundsTo read p c o := by
  -- The rest of a repetition starts at a later place, so no budget is needed to count its rounds.
  refine w.induction
    (motive := fun c => ∀ o, rules.EndsWith read (.many p) c o → rules.RoundsTo read p c o)
    (fun c hc ih o h => ?_) hc o h
  rcases endsWith_many_iff.mp h with ⟨v, d, hd, h⟩ | ⟨e, he, rfl⟩
  · rcases w.eq_or_precedes hc (hp c v d hc hd) with rfl | hlater
    · rw [if_pos (w.beq_self hc)] at h
      exact ⟨[], d, .nil d, Or.inr ⟨v, hd, h⟩⟩
    · rw [if_neg (w.not_beq hc hlater)] at h
      obtain ⟨o', ho', rfl⟩ := h
      exact (ih d hlater o' ho').cons ⟨hd, hlater⟩
  · exact ⟨[], c, .nil c, Or.inl ⟨⟨e, he⟩, rfl⟩⟩

omit hp in
theorem RoundsTo.endsWith (h : rules.RoundsTo read p c o) :
    rules.EndsWith read (.many p) c o := by
  obtain ⟨vs, last, hrounds, hlast⟩ := h
  induction hrounds generalizing o with
  | nil c =>
    rcases hlast with ⟨⟨e, he⟩, rfl⟩ | ⟨v, hv, rfl⟩
    · exact endsWith_many_iff.mpr (Or.inr ⟨e, he, rfl⟩)
    · refine endsWith_many_iff.mpr (Or.inl ⟨v, c, hv, ?_⟩)
      rw [if_pos (w.beq_self hc)]
      rfl
  | @cons c d last v vs h hs ih =>
    have hd : good d := h.2.1.preserves w.next_mem hc
    refine endsWith_many_iff.mpr (Or.inl ⟨v, d, h.1, ?_⟩)
    rw [if_neg (w.not_beq hc h.2)]
    rcases hlast with ⟨he, rfl⟩ | ⟨v', hv', rfl⟩
    · exact ⟨_, ih hd (Or.inl ⟨he, rfl⟩), rfl⟩
    · exact ⟨_, ih hd (Or.inr ⟨v', hv', rfl⟩), rfl⟩

/-- A repetition comes to an end if its element does at the start of every round. -/
theorem exists_endsWith_many
    (h : ∀ vs d, Rounds (rules.Round read p) c vs d → ∃ o, rules.EndsWith read p d o) :
    ∃ o, rules.EndsWith read (.many p) c o := by
  refine w.induction (motive := fun c =>
    (∀ vs d, Rounds (rules.Round read p) c vs d → ∃ o, rules.EndsWith read p d o) →
      ∃ o, rules.EndsWith read (.many p) c o) (fun c hc ih h => ?_) hc h
  obtain ⟨⟨v, d⟩ | e, ho⟩ := h [] c (.nil c)
  · rcases w.eq_or_precedes hc (hp c v d hc ho) with rfl | hlater
    · exact ⟨_, RoundsTo.endsWith w hc ⟨[], d, .nil d, Or.inr ⟨v, ho, rfl⟩⟩⟩
    · have hd : good d := hlater.1.preserves w.next_mem hc
      obtain ⟨o, ho'⟩ := ih d hlater fun vs last hs => h (v :: vs) last (.cons ⟨ho, hlater⟩ hs)
      exact ⟨_, ((ho'.roundsTo w hp hd).cons ⟨ho, hlater⟩).endsWith w hc⟩
  · exact ⟨_, RoundsTo.endsWith w hc ⟨[], c, .nil c, Or.inl ⟨⟨e, ho⟩, rfl⟩⟩⟩

end

/-- What a repetition does from `c` on. -/
structure RepeatsInRounds (rules : Rules L ρ V)
    (read : {β : Type} → L β → κ → Outcome κ ParseError β) (p : Grammar L ρ V β) (c : κ) :
    Prop where
  /-- It ends as its rounds say, and so never with a failure. -/
  endsWith_iff : ∀ o, rules.EndsWith read (.many p) c o ↔ rules.RoundsTo read p c o
  /-- It ends if the element does at the start of every round. -/
  ends : (∀ vs d, Rounds (rules.Round read p) c vs d → ∃ o, rules.EndsWith read p d o) →
    ∃ o, rules.EndsWith read (.many p) c o
  /-- It starts the element once more than there are atoms left, at most. -/
  starts_le : ∀ name budget, (∀ d, (rules.run read budget p d).starts name = 0) →
    (rules.run read budget (.many (.traced name p)) c).starts name ≤
      (Cursor.remaining c).length + 1
  /-- From where it leaves off, it consumes nothing. -/
  settled : ∀ vs rest, rules.EndsWith read (.many p) c (.success vs rest) →
    ∃ ws, rules.EndsWith read (.many p) rest (.success ws rest)

theorem repeatsInRounds (w : Cursor.Ordered good) (hp : rules.Advances read good p)
    (hc : good c) : rules.RepeatsInRounds read p c where
  endsWith_iff _ := ⟨fun h => h.roundsTo w hp hc, fun h => h.endsWith w hc⟩
  ends := exists_endsWith_many w hp hc
  starts_le name budget hquiet :=
    Parser.starts_many_le w ((hp.run budget).traced name) (Parser.starts_traced_le hquiet) budget hc
  settled vs rest h := by
    obtain ⟨ws, last, hrounds, hlast⟩ := h.roundsTo w hp hc
    have hgood : good last := (reaches_of_rounds hrounds).preserves w.next_mem hc
    rcases hlast with ⟨he, ho⟩ | ⟨v, hv, ho⟩
    · obtain ⟨-, rfl⟩ := Outcome.success.inj ho
      exact ⟨[], RoundsTo.endsWith w hgood ⟨[], rest, .nil rest, Or.inl ⟨he, rfl⟩⟩⟩
    · obtain ⟨-, rfl⟩ := Outcome.success.inj ho
      exact ⟨[v], RoundsTo.endsWith w hgood ⟨[], rest, .nil rest, Or.inr ⟨v, hv, rfl⟩⟩⟩

end Rules

theorem TextCursor.ordered_walks (s : Source Char) : Cursor.Ordered (TextCursor.Walks s) :=
  ordered.restrict (fun _ hc => hc.2) (walkable_walks s).next_mem

theorem ElementCursor.ordered_walks {α : Type} [BEq α] [Atom α] {s : Source α}
    (hself : ∀ a ∈ s.elements, (a == a) = true) : Cursor.Ordered (ElementCursor.Walks s) :=
  ordered.restrict (fun _ hc => ⟨hc.2, hc.1 ▸ hself⟩) (walkable_walks s).next_mem

section
variable {L : Type → Type} {ρ V β : Type} {rules : Rules L ρ V} {g : Grammar L ρ V β} {v : β}

theorem TextCursor.follows_of_endsWith
    {read : {β : Type} → L β → TextCursor → Outcome TextCursor ParseError β} {s : Source Char}
    {c rest : TextCursor} (hrules : rules.AllLeaves (Onward read (Walks s)))
    (hg : g.AllLeaves (Onward read (Walks s))) (hc : c.Walks s)
    (h : rules.EndsWith read g c (.success v rest)) : rest.Follows c :=
  follows_of_reaches hc.2
    (Rules.advances_of_allLeaves (walkable_walks s).next_mem hrules hg c v rest hc h)

theorem ElementCursor.follows_of_endsWith {α : Type} [BEq α] [Atom α]
    {read : {β : Type} → L β → ElementCursor α → Outcome (ElementCursor α) ParseError β}
    {s : Source α} {c rest : ElementCursor α} (hrules : rules.AllLeaves (Onward read (Walks s)))
    (hg : g.AllLeaves (Onward read (Walks s))) (hc : c.Walks s)
    (h : rules.EndsWith read g c (.success v rest)) : rest.Follows c :=
  follows_of_reaches hc.2.inBounds
    (Rules.advances_of_allLeaves (walkable_walks s).next_mem hrules hg c v rest hc h)

end

/-- A repetition of a grammar that leaves suffixes goes through rounds, on every text and on every
sequence of atoms that equal themselves. -/
theorem repetition_in_rounds :
    (∀ {L : Type → Type} {ρ V β : Type} (rules : Rules L ρ V)
      (read : {β : Type} → L β → TextCursor → Outcome TextCursor ParseError β)
      (source : Source Char) (p : Grammar L ρ V β) (start : TextCursor),
      (∀ c v rest, c.Walks source → rules.EndsWith read p c (.success v rest) →
        rest.Follows c) →
      start.Walks source → rules.RepeatsInRounds read p start) ∧
    ∀ {L : Type → Type} {α ρ V β : Type} [BEq α] [Atom α] (rules : Rules L ρ V)
      (read : {β : Type} → L β → ElementCursor α → Outcome (ElementCursor α) ParseError β)
      (source : Source α) (p : Grammar L ρ V β) (start : ElementCursor α),
      (∀ a ∈ source.elements, (a == a) = true) →
      (∀ c v rest, c.Walks source → rules.EndsWith read p c (.success v rest) →
        rest.Follows c) →
      start.Walks source → rules.RepeatsInRounds read p start := by
  constructor
  · intro L ρ V β rules read source p start hp hstart
    exact Rules.repeatsInRounds (TextCursor.ordered_walks source)
      (fun c v rest hc h => TextCursor.reaches_of_follows hc.2 (hp c v rest hc h)) hstart
  · intro L α ρ V β _ _ rules read source p start hself hp hstart
    exact Rules.repeatsInRounds (ElementCursor.ordered_walks hself)
      (fun c v rest hc h => ElementCursor.reaches_of_follows hc.2 (hp c v rest hc h)) hstart

/-- On text the element fails at no place, and the repetition stops where it takes nothing; on the
sequence it stops where the element fails. -/
theorem repetition_in_rounds_at_work :
    (let s : Source Char := ⟨0, ['a', 'a', 'b']⟩
      let rules : Rules TextLeaf Empty Unit := fun r => r.elim
      let p : Grammar TextLeaf Empty Unit Char :=
        (Grammar.leaf (.inl (.exactly 'a'))).withDefault '-'
      rules.RepeatsInRounds TextLeaf.read p ⟨s, 0⟩ ∧
        rules.EndsWith TextLeaf.read (.many p) ⟨s, 0⟩ (.success ['a', 'a', '-'] ⟨s, 2⟩)) ∧
    let s : Source Token := ⟨1, [.comma, .newline]⟩
    let rules : Rules (Leaf Token) Empty Unit := fun r => r.elim
    let p : Grammar (Leaf Token) Empty Unit Token := .leaf (.exactly .comma)
    rules.RepeatsInRounds Leaf.read p (ElementCursor.within s 0) ∧
      rules.EndsWith Leaf.read (.many p) (ElementCursor.within s 0)
        (.success [.comma] (ElementCursor.within s 1)) := by
  constructor
  · intro s rules p
    have hp : p.AllLeaves (Onward TextLeaf.read (TextCursor.Walks s)) :=
      ⟨fun c v rest hc => TextLeaf.reaches_of_read hc.2 rfl, trivial⟩
    have hrounds : rules.RepeatsInRounds TextLeaf.read p ⟨s, 0⟩ :=
      repetition_in_rounds.1 rules TextLeaf.read s p ⟨s, 0⟩
        (fun c v rest hc => TextCursor.follows_of_endsWith (fun r _ _ => r.elim) hp hc)
        ⟨rfl, TextCursor.onBoundary_start s⟩
    have hfirst : rules.Round TextLeaf.read p ⟨s, 0⟩ 'a' ⟨s, 1⟩ :=
      ⟨Rules.endsWith_of_run (n := 0) rfl, ⟨1, rfl⟩, Nat.zero_lt_one⟩
    have hsecond : rules.Round TextLeaf.read p ⟨s, 1⟩ 'a' ⟨s, 2⟩ :=
      ⟨Rules.endsWith_of_run (n := 0) rfl, ⟨1, rfl⟩, Nat.one_lt_two⟩
    have hlast : rules.EndsWith TextLeaf.read p ⟨s, 2⟩ (.success '-' ⟨s, 2⟩) :=
      Rules.endsWith_of_run (n := 0) rfl
    exact ⟨hrounds, (hrounds.endsWith_iff _).mpr ⟨['a', 'a'], ⟨s, 2⟩,
      .cons hfirst (.cons hsecond (.nil _)), Or.inr ⟨'-', hlast, rfl⟩⟩⟩
  · intro s rules p
    have hp : p.AllLeaves (Onward Leaf.read (ElementCursor.Walks s)) :=
      fun c v rest _ => Leaf.reaches_of_read rfl
    have hrounds : rules.RepeatsInRounds Leaf.read p (ElementCursor.within s 0) :=
      repetition_in_rounds.2 rules Leaf.read s p (ElementCursor.within s 0) (by decide)
        (fun c v rest hc => ElementCursor.follows_of_endsWith (fun r _ _ => r.elim) hp hc)
        ⟨rfl, Nat.zero_lt_two⟩
    have hfirst : rules.Round Leaf.read p (ElementCursor.within s 0) .comma
        (ElementCursor.within s 1) :=
      ⟨Rules.endsWith_of_run (n := 0) rfl, ⟨1, rfl⟩, Nat.zero_lt_one⟩
    have hlast : rules.EndsWith Leaf.read p (ElementCursor.within s 1) (.failure
        (.unexpected (Atom.describe Token.comma) (Atom.describe Token.newline) ⟨1, 1, 1⟩)) :=
      Rules.endsWith_of_run (n := 0) rfl
    exact ⟨hrounds, (hrounds.endsWith_iff _).mpr ⟨[.comma], ElementCursor.within s 1,
      .cons hfirst (.nil _), Or.inl ⟨⟨_, hlast⟩, rfl⟩⟩⟩

end Descent
