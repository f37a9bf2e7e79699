import Descent.Proofs.Grammar.Separated

/-!
# One repetition in terms of the other

A repetition tests its progress after a round of its element, one with separators after an item and
the separator behind it. The two tests agree in two cases. If the separator always succeeds and
takes nothing, a round is the same for both. If every item consumes, or every separator does, then
no round leaves off where it began, and the rounds can be cut in another place: an item comes first,
and after it a repetition of a separator followed by an item.
-/
namespace Descent

namespace Rules
variable {L : Type → Type} {ρ V κ α β γ : Type} [Cursor κ α] {good : κ → Prop}
  {rules : Rules L ρ V} {read : {β : Type} → L β → κ → Outcome κ ParseError β}
  {p : Grammar L ρ V β} {s : Grammar L ρ V γ} {c d confirmed : κ}

/-- Where a grammar is known to succeed, there is one case only. -/
theorem EndsWith.success_or_failure_iff {v : β} (h : rules.EndsWith read p c (.success v d))
    {onSuccess : β → κ → Prop} {onFailure : Prop} :
    ((∃ v d, rules.EndsWith read p c (.success v d) ∧ onSuccess v d) ∨
      ∃ e, rules.EndsWith read p c (.failure e) ∧ onFailure) ↔ onSuccess v d := by
  constructor
  · rintro (⟨v', d', h', hs⟩ | ⟨e, he, -⟩)
    · obtain ⟨rfl, rfl⟩ := Outcome.success.inj (h.unique h')
      exact hs
    · exact absurd (h.unique he) (by simp)
  · exact fun hs => Or.inl ⟨v, d, h, hs⟩

theorem Consumes.position_lt {v : β} (h : rules.Consumes read good p) (hc : good c)
    (hd : rules.EndsWith read p c (.success v d)) : Cursor.position c < Cursor.position d := by
  obtain ⟨n, hn⟩ := hd
  exact h n c v d hc (hn n (Nat.le_refl n))

/-- What an item, and then a repetition of separators and items, comes to from `c` on, if it is
nothing up to `confirmed` without the item. -/
def ItemThenMany (rules : Rules L ρ V) (read : {β : Type} → L β → κ → Outcome κ ParseError β)
    (p : Grammar L ρ V β) (s : Grammar L ρ V γ) (confirmed c : κ)
    (o : Outcome κ ParseError (List β)) : Prop :=
  (∃ v item, rules.EndsWith read p c (.success v item) ∧
    ∃ o', rules.EndsWith read (.many (s.andThen p)) item o' ∧ o = o'.map fun vs _ => v :: vs) ∨
  ∃ e, rules.EndsWith read p c (.failure e) ∧ o = .success [] confirmed

theorem itemThenMany_iff {o : Outcome κ ParseError (List β)} :
    rules.ItemThenMany read p s confirmed c o ↔
      (∃ v item vs rest, rules.EndsWith read p c (.success v item) ∧
        rules.EndsWith read (.many (s.andThen p)) item (.success vs rest) ∧
        o = .success (v :: vs) rest) ∨
      ∃ e, rules.EndsWith read p c (.failure e) ∧ o = .success [] confirmed := by
  refine or_congr_left (exists_congr fun v => exists_congr fun item => ?_)
  constructor
  · rintro ⟨hitem, o', ho', rfl⟩
    obtain ⟨n, hn⟩ := id ho'
    obtain ⟨vs, rest, rfl⟩ := Parser.success_of_many (hn n (Nat.le_refl n))
    exact ⟨vs, rest, hitem, ho', rfl⟩
  · rintro ⟨vs, rest, hitem, hrest, rfl⟩
    exact ⟨hitem, .success vs rest, hrest, rfl⟩

section
variable (w : Cursor.Ordered good) (hp : rules.Advances read good p)
include w hp

/-- Behind every item, the separator succeeds where it stands. So the next item is expected where
the last one has ended, which is where the repetition without separators goes on. -/
theorem separatedEndsWith_iff_many
    (hs : ∀ d, good d → ∃ u, rules.EndsWith read s d (.success u d)) (hc : good c)
    {o : Outcome κ ParseError (List β)} :
    rules.SeparatedEndsWith read p s c c o ↔ rules.EndsWith read (.many p) c o := by
  refine w.induction (motive := fun c => ∀ o,
    rules.SeparatedEndsWith read p s c c o ↔ rules.EndsWith read (.many p) c o)
    (fun c hc ih o => ?_) hc o
  rw [separatedEndsWith_iff, endsWith_many_iff]
  refine or_congr_left (exists_congr fun v => exists_congr fun item =>
    and_congr_right fun hitem => ?_)
  have hci := hp c v item hc hitem
  obtain ⟨u, hu⟩ := hs item (hci.preserves w.next_mem hc)
  rw [hu.success_or_failure_iff]
  rcases w.eq_or_precedes hc hci with rfl | hlater
  · rw [if_pos (w.beq_self hc), if_pos (w.beq_self hc)]
  · rw [if_neg (w.not_beq hc hlater), if_neg (w.not_beq hc hlater)]
    exact exists_congr fun o' => and_congr_left fun _ => ih item hlater o'

variable (hs : rules.Advances read good s)
  (hcons : rules.Consumes read good p ∨ rules.Consumes read good s)
include hs hcons

/-- An item and the separator behind it lead to a later place. -/
theorem precedes_of_item {v : β} {u : γ} {item : κ} (hc : good c)
    (hitem : rules.EndsWith read p c (.success v item))
    (hd : rules.EndsWith read s item (.success u d)) : Cursor.Precedes c d := by
  have hci := hp c v item hc hitem
  have hgood : good item := hci.preserves w.next_mem hc
  have hid := hs item u d hgood hd
  refine ⟨hci.trans hid, ?_⟩
  rcases hcons with h | h
  · exact Nat.lt_of_lt_of_le (h.position_lt hc hitem) (w.position_le hgood hid)
  · exact Nat.lt_of_le_of_lt (w.position_le hc hci) (h.position_lt hgood hd)

/-- So do a separator and the item behind it. -/
theorem precedes_of_separator {v : β} {u : γ} {item : κ} (hc : good c)
    (hd : rules.EndsWith read s c (.success u d))
    (hitem : rules.EndsWith read p d (.success v item)) : Cursor.Precedes c item :=
  precedes_of_item w hs hp hcons.symm hc hd hitem

/-- A round of a separator and an item always moves, so that the repetition of them goes on with
the separator wherever there is one with an item behind it. -/
theorem endsWith_many_andThen_iff (hc : good c) {o : Outcome κ ParseError (List β)} :
    rules.EndsWith read (.many (s.andThen p)) c o ↔
      (∃ u d, rules.EndsWith read s c (.success u d) ∧ rules.ItemThenMany read p s c d o) ∨
        ∃ e, rules.EndsWith read s c (.failure e) ∧ o = .success [] c := by
  rw [endsWith_many_iff]
  constructor
  · rintro (⟨v, item, hround, h⟩ | ⟨e, hround, rfl⟩)
    · rcases endsWith_bind_iff.mp hround with ⟨u, d, hd, hitem⟩ | ⟨e, _, he⟩
      · rw [if_neg (w.not_beq hc (precedes_of_separator w hp hs hcons hc hd hitem))] at h
        exact Or.inl ⟨u, d, hd, Or.inl ⟨v, item, hitem, h⟩⟩
      · simp at he
    · rcases endsWith_bind_iff.mp hround with ⟨u, d, hd, he⟩ | ⟨e', he', _⟩
      · exact Or.inl ⟨u, d, hd, Or.inr ⟨e, he, rfl⟩⟩
      · exact Or.inr ⟨e', he', rfl⟩
  · rintro (⟨u, d, hd, ⟨v, item, hitem, h⟩ | ⟨e, he, rfl⟩⟩ | ⟨e, he, rfl⟩)
    · refine Or.inl ⟨v, item, endsWith_bind_iff.mpr (Or.inl ⟨u, d, hd, hitem⟩), ?_⟩
      rwa [if_neg (w.not_beq hc (precedes_of_separator w hp hs hcons hc hd hitem))]
    · exact Or.inr ⟨e, endsWith_bind_iff.mpr (Or.inl ⟨u, d, hd, he⟩), rfl⟩
    · exact Or.inr ⟨e, endsWith_bind_iff.mpr (Or.inr ⟨e, he, rfl⟩), rfl⟩

/-- Rounds of an item and a separator are an item and then rounds of a separator and an item. -/
theorem separatedEndsWith_iff_itemThenMany (hc : good c) {o : Outcome κ ParseError (List β)} :
    rules.SeparatedEndsWith read p s confirmed c o ↔ rules.ItemThenMany read p s confirmed c o := by
  refine w.induction (motive := fun c => ∀ confirmed o,
    rules.SeparatedEndsWith read p s confirmed c o ↔ rules.ItemThenMany read p s confirmed c o)
    (fun c hc ih confirmed o => ?_) hc confirmed o
  rw [separatedEndsWith_iff, ItemThenMany]
  refine or_congr_left (exists_congr fun v => exists_congr fun item =>
    and_congr_right fun hitem => ?_)
  have hgood : good item := (hp c v item hc hitem).preserves w.next_mem hc
  simp only [endsWith_many_andThen_iff w hp hs hcons hgood]
  constructor
  · rintro (⟨u, d, hd, h⟩ | ⟨e, he, rfl⟩)
    · have hlater := precedes_of_item w hp hs hcons hc hitem hd
      rw [if_neg (w.not_beq hc hlater)] at h
      obtain ⟨o', ho', rfl⟩ := h
      exact ⟨o', Or.inl ⟨u, d, hd, (ih d hlater item o').mp ho'⟩, rfl⟩
    · exact ⟨.success [] item, Or.inr ⟨e, he, rfl⟩, rfl⟩
  · rintro ⟨o', ⟨u, d, hd, h⟩ | ⟨e, he, rfl⟩, rfl⟩
    · have hlater := precedes_of_item w hp hs hcons hc hitem hd
      refine Or.inl ⟨u, d, hd, ?_⟩
      rw [if_neg (w.not_beq hc hlater)]
      exact ⟨o', (ih d hlater item o').mpr h, rfl⟩
    · exact Or.inr ⟨e, he, rfl⟩

end

/-- How a repetition with separators from `c` on relates to the one without, over the cursors of
the set. -/
structure RepetitionsAgree (rules : Rules L ρ V)
    (read : {β : Type} → L β → κ → Outcome κ ParseError β) (good : κ → Prop)
    (p : Grammar L ρ V β) (s : Grammar L ρ V γ) (c : κ) : Prop where
  /-- If the separator always succeeds and takes nothing, it makes no difference. -/
  of_empty : (∀ d, good d → ∃ u, rules.EndsWith read s d (.success u d)) →
    ∀ o, rules.EndsWith read (.sepBy p s) c o ↔ rules.EndsWith read (.many p) c o
  /-- If all items consume, or all separators do, it ends exactly if an item and then a repetition
  of separators and items do, with the values of both and the remainder of the second. Without an
  item it is empty. -/
  of_consuming : rules.Consumes read good p ∨ rules.Consumes read good s →
    ∀ o, rules.EndsWith read (.sepBy p s) c o ↔
      (∃ v item vs rest, rules.EndsWith read p c (.success v item) ∧
        rules.EndsWith read (.many (s.andThen p)) item (.success vs rest) ∧
        o = .success (v :: vs) rest) ∨
      ∃ e, rules.EndsWith read p c (.failure e) ∧ o = .success [] c

theorem repetitionsAgree (w : Cursor.Ordered good) (hp : rules.Advances read good p)
    (hs : rules.Advances read good s) (hc : good c) :
    rules.RepetitionsAgree read good p s c where
  of_empty hempty o := by
    rw [endsWith_sepBy_iff]
    exact separatedEndsWith_iff_many w hp hempty hc
  of_consuming hcons o := by
    rw [endsWith_sepBy_iff, separatedEndsWith_iff_itemThenMany w hp hs hcons hc, itemThenMany_iff]

end Rules

/-- A repetition with separators whose parts leave suffixes does what one without does, if the
separators take nothing, or what an item and a repetition of separators and items do, if all items
or all separators consume: on every text and on every sequence of atoms that equal themselves. -/
theorem repetitions_agree :
    (∀ {L : Type → Type} {ρ V β γ : Type} (rules : Rules L ρ V)
      (read : {β : Type} → L β → TextCursor → Outcome TextCursor ParseError β)
      (source : Source Char) (p : Grammar L ρ V β) (s : Grammar L ρ V γ) (start : TextCursor),
      (∀ c v rest, c.Walks source → rules.EndsWith read p c (.success v rest) →
        rest.Follows c) →
      (∀ c v rest, c.Walks source → rules.EndsWith read s c (.success v rest) →
        rest.Follows c) →
      start.Walks source →
      rules.RepetitionsAgree read (TextCursor.Walks source) p s start) ∧
    ∀ {L : Type → Type} {α ρ V β γ : Type} [BEq α] [Atom α] (rules : Rules L ρ V)
      (read : {β : Type} → L β → ElementCursor α → Outcome (ElementCursor α) ParseError β)
      (source : Source α) (p : Grammar L ρ V β) (s : Grammar L ρ V γ) (start : ElementCursor α),
      (∀ a ∈ source.elements, (a == a) = true) →
      (∀ c v rest, c.Walks source → rules.EndsWith read p c (.success v rest) →
        rest.Follows c) →
      (∀ c v rest, c.Walks source → rules.EndsWith read s c (.success v rest) →
        rest.Follows c) →
      start.Walks source →
      rules.RepetitionsAgree read (ElementCursor.Walks source) p s start := by
  constructor
  · intro L ρ V β γ rules read source p s start hp hs hstart
    exact Rules.repetitionsAgree (TextCursor.ordered_walks source)
      (fun c v rest hc h => TextCursor.reaches_of_follows hc.2 (hp c v rest hc h))
      (fun c v rest hc h => TextCursor.reaches_of_follows hc.2 (hs c v rest hc h)) hstart
  · intro L α ρ V β γ _ _ rules read source p s start hself hp hs hstart
    exact Rules.repetitionsAgree (ElementCursor.ordered_walks hself)
      (fun c v rest hc h => ElementCursor.reaches_of_follows hc.2 (hp c v rest hc h))
      (fun c v rest hc h => ElementCursor.reaches_of_follows hc.2 (hs c v rest hc h)) hstart

/-- A leaf that reads an atom of its choice consumes it. -/
theorem Rules.consumes_exactly {ρ V κ α : Type} [Cursor κ α] [BEq α] [Atom α] {good : κ → Prop}
    {rules : Rules (Leaf α) ρ V} (w : Cursor.Ordered good) (a : α) :
    rules.Consumes Leaf.read good (.leaf (.exactly a)) := by
  intro n c v rest hc h
  have hread : Leaf.readSatisfying (Atom.describe a) (· == a) c = .success v rest := by
    simpa [Rules.run, Grammar.parser, Leaf.read, Leaf.readExactly] using h
  unfold Leaf.readSatisfying at hread
  split at hread
  · simp at hread
  · next x hx =>
    have hr : Cursor.remaining c ≠ [] := by
      intro hnil
      simp [w.value?_eq c hc, hnil] at hx
    split at hread
    · obtain ⟨-, rfl⟩ := Outcome.success.inj hread
      exact w.position_lt_next c hc hr
    · simp at hread

/-- On text the separator tells whether the source has ended, which takes nothing; on the sequence
both parts consume, and the last separator has no item behind it. -/
theorem repetitions_agree_at_work :
    (let s : Source Char := ⟨0, ['a', 'a', 'b']⟩
      let rules : Rules TextLeaf Empty Unit := fun r => r.elim
      let p : Grammar TextLeaf Empty Unit Char :=
        (Grammar.leaf (.inl (.exactly 'a'))).withDefault '-'
      let t : Grammar TextLeaf Empty Unit Bool := .leaf (.inl .ended)
      rules.RepetitionsAgree TextLeaf.read (TextCursor.Walks s) p t ⟨s, 0⟩ ∧
        rules.EndsWith TextLeaf.read (.many p) ⟨s, 0⟩ (.success ['a', 'a', '-'] ⟨s, 2⟩) ∧
        rules.EndsWith TextLeaf.read (.sepBy p t) ⟨s, 0⟩ (.success ['a', 'a', '-'] ⟨s, 2⟩)) ∧
    let s : Source Token := ⟨1, [.comma, .newline, .comma, .newline]⟩
    let rules : Rules (Leaf Token) Empty Unit := fun r => r.elim
    let p : Grammar (Leaf Token) Empty Unit Token := .leaf (.exactly .comma)
    let t : Grammar (Leaf Token) Empty Unit Token := .leaf (.exactly .newline)
    rules.RepetitionsAgree Leaf.read (ElementCursor.Walks s) p t (ElementCursor.within s 0) ∧
      rules.EndsWith Leaf.read (.many (t.andThen p)) (ElementCursor.within s 1)
        (.success [.comma] (ElementCursor.within s 3)) ∧
      rules.EndsWith Leaf.read (.sepBy p t) (ElementCursor.within s 0)
        (.success [.comma, .comma] (ElementCursor.within s 3)) := by
  constructor
  · intro s rules p t
    have hp : p.AllLeaves (Onward TextLeaf.read (TextCursor.Walks s)) :=
      ⟨fun c v rest hc => TextLeaf.reaches_of_read hc.2 rfl, trivial⟩
    have ht : t.AllLeaves (Onward TextLeaf.read (TextCursor.Walks s)) :=
      fun c v rest hc => TextLeaf.reaches_of_read hc.2 rfl
    have hagree : rules.RepetitionsAgree TextLeaf.read (TextCursor.Walks s) p t ⟨s, 0⟩ :=
      repetitions_agree.1 rules TextLeaf.read s p t ⟨s, 0⟩
        (fun c v rest hc => TextCursor.follows_of_endsWith (fun r _ _ => r.elim) hp hc)
        (fun c v rest hc => TextCursor.follows_of_endsWith (fun r _ _ => r.elim) ht hc)
        ⟨rfl, TextCursor.onBoundary_start s⟩
    have hmany : rules.EndsWith TextLeaf.read (.many p) ⟨s, 0⟩ (.success ['a', 'a', '-'] ⟨s, 2⟩) :=
      Rules.endsWith_of_run (n := 3) rfl
    exact ⟨hagree, hmany,
      (hagree.of_empty (fun d _ => ⟨_, Rules.endsWith_leaf _⟩) _).mpr hmany⟩
  · intro s rules p t
    have hleaf : ∀ a : Token, (Grammar.leaf (.exactly a) : Grammar (Leaf Token) Empty Unit
        Token).AllLeaves (Onward Leaf.read (ElementCursor.Walks s)) :=
      fun a c v rest _ => Leaf.reaches_of_read rfl
    have hself : ∀ a ∈ s.elements, (a == a) = true := by decide
    have hagree : rules.RepetitionsAgree Leaf.read (ElementCursor.Walks s) p t
        (ElementCursor.within s 0) :=
      repetitions_agree.2 rules Leaf.read s p t (ElementCursor.within s 0) hself
        (fun c v rest hc => ElementCursor.follows_of_endsWith (fun r _ _ => r.elim) (hleaf _) hc)
        (fun c v rest hc => ElementCursor.follows_of_endsWith (fun r _ _ => r.elim) (hleaf _) hc)
        ⟨rfl, Nat.zero_lt_succ 3⟩
    have hitem : rules.EndsWith Leaf.read p (ElementCursor.within s 0)
        (.success .comma (ElementCursor.within s 1)) :=
      Rules.endsWith_of_run (n := 0) rfl
    have hmany : rules.EndsWith Leaf.read (.many (t.andThen p)) (ElementCursor.within s 1)
        (.success [.comma] (ElementCursor.within s 3)) :=
      Rules.endsWith_of_run (n := 2) rfl
    have hconsumes : rules.Consumes Leaf.read (ElementCursor.Walks s) p :=
      Rules.consumes_exactly (ElementCursor.ordered_walks hself) .comma
    exact ⟨hagree, hmany, (hagree.of_consuming (Or.inl hconsumes) _).mpr
      (Or.inl ⟨_, _, _, _, hitem, hmany, rfl⟩)⟩

end Descent
