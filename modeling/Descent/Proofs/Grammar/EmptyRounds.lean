import Descent.Proofs.Grammar.Separated

/-!
# Rounds that take nothing

A repetition tells that a round has taken nothing by comparing cursors, and cursors over a sequence
compare all atoms of it. If one of them does not equal itself, wherever in the source it stands, the
comparison always says that the cursor has moved: the repetition goes on from the same place for
ever and has no outcome. Over every other source, and over every text, it stops with one value.
-/
namespace Descent

namespace Rules
variable {L : Type → Type} {ρ V κ α β γ : Type} [Cursor κ α] {rules : Rules L ρ V}
  {read : {β : Type} → L β → κ → Outcome κ ParseError β} {p : Grammar L ρ V β}
  {s : Grammar L ρ V γ} {c confirmed next item : κ} {v : β} {w : γ}
  {o o' : Outcome κ ParseError (List β)}

theorem success_of_endsWith_many (h : rules.EndsWith read (.many p) c o) :
    ∃ vs rest, o = .success vs rest := by
  obtain ⟨n, hn⟩ := h
  exact Parser.success_of_many (hn n (Nat.le_refl n))

theorem SeparatedEndsWith.success (h : rules.SeparatedEndsWith read p s confirmed next o) :
    ∃ vs rest, o = .success vs rest := by
  obtain ⟨n, hn⟩ := h
  exact Parser.success_of_separated hn

/-- A success is not itself with one more value. -/
theorem ne_map_cons {vs : List β} {rest : κ} :
    (Outcome.success vs rest : Outcome κ ParseError (List β)) ≠
      (Outcome.success vs rest).map fun vs _ => v :: vs := by
  intro h
  have hlength := congrArg List.length (Outcome.success.inj h).1
  simp at hlength

/-- A round that leaves the cursor where it was is the last one if the cursor equals itself. If not,
the repetition would come to an outcome that is the same outcome with one more value. -/
theorem endsWith_many_iff_of_stay (h : rules.EndsWith read p c (.success v c)) :
    rules.EndsWith read (.many p) c o ↔ (c == c) = true ∧ o = .success [v] c := by
  constructor
  · intro ho
    rcases endsWith_many_iff.mp ho with ⟨v', d, hd, hround⟩ | ⟨e, he, _⟩
    · obtain ⟨rfl, rfl⟩ := Outcome.success.inj (hd.unique h)
      split at hround
      · next hself => exact ⟨hself, hround⟩
      · obtain ⟨o', ho', rfl⟩ := hround
        obtain ⟨vs, rest, rfl⟩ := success_of_endsWith_many ho'
        exact absurd (ho'.unique ho) ne_map_cons
    · exact absurd (he.unique h) (by simp)
  · rintro ⟨hself, rfl⟩
    exact endsWith_many_iff.mpr (Or.inl ⟨v, c, h, by rw [if_pos hself]⟩)

theorem separatedEndsWith_iff_of_stay (h : rules.EndsWith read p c (.success v item))
    (h' : rules.EndsWith read s item (.success w c)) :
    rules.SeparatedEndsWith read p s confirmed c o ↔
      if c == c then o = .success [v] item
      else ∃ o', rules.SeparatedEndsWith read p s item c o' ∧ o = o'.map fun vs _ => v :: vs := by
  constructor
  · intro ho
    rcases separatedEndsWith_iff.mp ho with ⟨v', d, hd, ⟨u, d', hd', hround⟩ | ⟨e, he, _⟩⟩ |
      ⟨e, he, _⟩
    · obtain ⟨rfl, rfl⟩ := Outcome.success.inj (hd.unique h)
      obtain ⟨rfl, rfl⟩ := Outcome.success.inj (hd'.unique h')
      exact hround
    · obtain ⟨rfl, rfl⟩ := Outcome.success.inj (hd.unique h)
      exact absurd (he.unique h') (by simp)
    · exact absurd (he.unique h) (by simp)
  · exact fun hround => separatedEndsWith_iff.mpr (Or.inl ⟨v, item, h, Or.inl ⟨w, c, h', hround⟩⟩)

/-- If an item and the separator after it lead back to where the item began, the item is the last
one if the cursor there equals itself. -/
theorem endsWith_sepBy_iff_of_stay (h : rules.EndsWith read p c (.success v item))
    (h' : rules.EndsWith read s item (.success w c)) :
    rules.EndsWith read (.sepBy p s) c o ↔ (c == c) = true ∧ o = .success [v] item := by
  rw [endsWith_sepBy_iff]
  constructor
  · intro ho
    have hround := (separatedEndsWith_iff_of_stay h h').mp ho
    split at hround
    · next hself => exact ⟨hself, hround⟩
    · next hself =>
      -- From the second round on, the end of the last item is the same place as well.
      obtain ⟨o', ho', rfl⟩ := hround
      have hagain := (separatedEndsWith_iff_of_stay h h').mp ho'
      rw [if_neg hself] at hagain
      obtain ⟨o'', ho'', rfl⟩ := hagain
      obtain ⟨vs, rest, rfl⟩ := ho''.success
      exact absurd (ho''.unique ho') ne_map_cons
  · rintro ⟨hself, rfl⟩
    refine (separatedEndsWith_iff_of_stay h h').mpr ?_
    rw [if_pos hself]

end Rules

/-- A cursor equals itself just if all atoms of its source do, those already consumed included. -/
class Cursor.ComparesAtoms (κ : Type) {α : Type} [Cursor κ α] [BEq α] : Prop where
  beq_self_iff : ∀ c : κ, (c == c) = true ↔ ∀ a ∈ (source c).elements, (a == a) = true

instance : Cursor.ComparesAtoms TextCursor where
  beq_self_iff c := iff_of_true c.beq_self fun a _ => beq_self_eq_true a

instance {α : Type} [BEq α] [Atom α] : Cursor.ComparesAtoms (ElementCursor α) where
  beq_self_iff c := by
    refine ⟨fun h => ElementCursor.forall_mem_of_beq_self ?_, ElementCursor.beq_self⟩
    cases c with
    | within s i => exact (Bool.and_eq_true_iff.mp h).1
    | finished s => exact h

/-- A round that takes nothing ends a repetition just if the atoms of the whole source equal
themselves. If one of them does not, the repetition has no outcome. -/
theorem empty_round_is_last_iff {L : Type → Type} {ρ V κ α β γ : Type} [Cursor κ α] [BEq α]
    [Cursor.ComparesAtoms κ] (rules : Rules L ρ V)
    (read : {β : Type} → L β → κ → Outcome κ ParseError β) (p : Grammar L ρ V β)
    (s : Grammar L ρ V γ) (c item : κ) (v : β) (w : γ) :
    (rules.EndsWith read p c (.success v c) → ∀ o, rules.EndsWith read (.many p) c o ↔
      (∀ a ∈ (Cursor.source c).elements, (a == a) = true) ∧ o = .success [v] c) ∧
    (rules.EndsWith read p c (.success v item) → rules.EndsWith read s item (.success w c) →
      ∀ o, rules.EndsWith read (.sepBy p s) c o ↔
        (∀ a ∈ (Cursor.source c).elements, (a == a) = true) ∧ o = .success [v] item) := by
  constructor
  · intro h o
    rw [Rules.endsWith_many_iff_of_stay h, Cursor.ComparesAtoms.beq_self_iff]
  · intro h h' o
    rw [Rules.endsWith_sepBy_iff_of_stay h h', Cursor.ComparesAtoms.beq_self_iff]

theorem empty_round_is_last_for_positions :
    (let c : TextCursor := ⟨⟨0, ['a']⟩, 1⟩
      let rules : Rules TextLeaf Empty Unit := fun r => r.elim
      let p : Grammar TextLeaf Empty Unit Nat := .leaf (.inl .position)
      rules.EndsWith TextLeaf.read (.many p) c (.success [1] c) ∧
        rules.EndsWith TextLeaf.read (.sepBy p p) c (.success [1] c)) ∧
    let c : ElementCursor Token := .within ⟨1, [.comma, .newline]⟩ 1
    let rules : Rules (Leaf Token) Empty Unit := fun r => r.elim
    let p : Grammar (Leaf Token) Empty Unit Nat := .leaf .position
    rules.EndsWith Leaf.read (.many p) c (.success [1] c) ∧
      rules.EndsWith Leaf.read (.sepBy p p) c (.success [1] c) := by
  constructor
  · intro c rules p
    have hp : rules.EndsWith TextLeaf.read p c (.success 1 c) := Rules.endsWith_leaf _
    have hself : ∀ a ∈ c.source.elements, (a == a) = true := fun a _ => beq_self_eq_true a
    obtain ⟨hmany, hsepBy⟩ := empty_round_is_last_iff rules TextLeaf.read p p c c 1 1
    exact ⟨(hmany hp _).mpr ⟨hself, rfl⟩, (hsepBy hp hp _).mpr ⟨hself, rfl⟩⟩
  · intro c rules p
    have hp : rules.EndsWith Leaf.read p c (.success 1 c) := Rules.endsWith_leaf _
    have hself : ∀ a ∈ c.source.elements, (a == a) = true := by decide
    obtain ⟨hmany, hsepBy⟩ := empty_round_is_last_iff rules Leaf.read p p c c 1 1
    exact ⟨(hmany hp _).mpr ⟨hself, rfl⟩, (hsepBy hp hp _).mpr ⟨hself, rfl⟩⟩

/-- The position is told without taking anything, and over an atom that does not equal itself
neither repetition comes to an end. -/
theorem empty_round_repeats_at_never :
    let c : ElementCursor Token := .within ⟨0, [.never]⟩ 0
    let rules : Rules (Leaf Token) Empty Unit := fun r => r.elim
    let p : Grammar (Leaf Token) Empty Unit Nat := .leaf .position
    rules.EndsWith Leaf.read p c (.success 0 c) ∧
      (∀ o, ¬ rules.EndsWith Leaf.read (.many p) c o) ∧
      ∀ o, ¬ rules.EndsWith Leaf.read (.sepBy p p) c o := by
  intro c rules p
  have hp : rules.EndsWith Leaf.read p c (.success 0 c) := Rules.endsWith_leaf _
  have hself : ¬ (c == c) = true := Bool.false_ne_true
  exact ⟨hp, fun o ho => hself ((Rules.endsWith_many_iff_of_stay hp).mp ho).1,
    fun o ho => hself ((Rules.endsWith_sepBy_iff_of_stay hp hp).mp ho).1⟩

end Descent
