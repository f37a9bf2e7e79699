import Descent.Proofs.Grammar.Rounds

/-!
# Rounds with separators

A round of a repetition with separators is an item and the separator after it, which together lead
to a later place. The last item has no such round: the separator after it fails, or item and
separator take nothing, or no item follows the separator. In each case the repetition leaves off at
the end of the last item, so that a separator is consumed only between two items.
-/
namespace Descent

namespace Parser
variable {κ α β γ : Type} [Cursor κ α] {good : κ → Prop} {p : Parser κ β} {s : Parser κ γ}
  {name : String}

/-- A repetition with separators starts its item at most once for every remaining atom and once
more. -/
theorem starts_separated_le (w : Cursor.Ordered good) (hadvp : p.Advances good)
    (hadvs : s.Advances good) (hp : ∀ c, (p c).starts name ≤ 1) (hs : ∀ c, (s c).starts name = 0)
    (budget : Nat) {confirmed next : κ} (hnext : good next) :
    (p.separated s budget confirmed next).starts name ≤ (Cursor.remaining next).length + 1 := by
  induction budget generalizing confirmed next with
  | zero => exact Nat.zero_le _
  | succ budget ih =>
    rw [Parser.separated, Nat.add_comm]
    refine Run.starts_continueWith_le (hp next) (fun v item hitem => ?_) fun _ _ => Nat.zero_le _
    have hni := hadvp next v item hnext hitem
    have hgood : good item := hni.preserves w.next_mem hnext
    rw [← Nat.zero_add (Cursor.remaining next).length]
    refine Run.starts_continueWith_le (Nat.le_of_eq (hs item)) (fun u following hfollowing => ?_)
      fun _ _ => Nat.zero_le _
    split
    · exact Nat.zero_le _
    · next hmove =>
      have hnf := hni.trans (hadvs item u following hgood hfollowing)
      rcases w.eq_or_precedes hnext hnf with rfl | hlater
      · exact absurd (w.beq_self hnext) hmove
      · calc
          ((p.separated s budget item following).map (v :: ·)).starts name
            ≤ (p.separated s budget item following).starts name := Run.starts_map_le _ _
          _ ≤ (Cursor.remaining following).length + 1 := ih (hnf.preserves w.next_mem hnext)
          _ ≤ (Cursor.remaining next).length := w.length_lt hnext hlater

/-- A repetition with separators does not fail, wherever its parts leave off. -/
theorem success_of_separated {budget : Nat} {confirmed next : κ}
    {o : Outcome κ ParseError (List β)}
    (h : (p.separated s budget confirmed next).outcome? = some o) :
    ∃ vs rest, o = .success vs rest := by
  induction budget generalizing confirmed next o with
  | zero => simp [Parser.separated, Parser.diverge] at h
  | succ budget ih =>
    rw [Parser.separated] at h
    rcases Run.ends_of_continueWith h with ⟨v, item, _, h⟩ | ⟨e, _, ho⟩
    · rcases Run.ends_of_continueWith h with ⟨w, following, _, ho⟩ | ⟨e, _, ho⟩
      · split at ho
        · exact ⟨[v], item, (Option.some.inj ho).symm⟩
        · obtain ⟨o', ho', rfl⟩ := Run.ends_of_map ho
          obtain ⟨vs, rest, rfl⟩ := ih ho'
          exact ⟨v :: vs, rest, rfl⟩
      · exact ⟨[v], item, (Option.some.inj ho).symm⟩
    · exact ⟨[], confirmed, (Option.some.inj ho).symm⟩

end Parser

namespace Rules
variable {L : Type → Type} {ρ V κ α β γ : Type} [Cursor κ α] {good : κ → Prop}

/-- An item at `start` with the value `v`, and a separator after it, lead to the later place
`next`. -/
def SeparatedRound (rules : Rules L ρ V)
    (read : {β : Type} → L β → κ → Outcome κ ParseError β) (p : Grammar L ρ V β)
    (s : Grammar L ρ V γ) (start : κ) (v : β) (next : κ) : Prop :=
  ∃ item w, rules.EndsWith read p start (.success v item) ∧
    rules.EndsWith read s item (.success w next) ∧ Cursor.Precedes start next

/-- Why there is no further item after the one from `start` to `item`. -/
def LastItem (rules : Rules L ρ V) (read : {β : Type} → L β → κ → Outcome κ ParseError β)
    (p : Grammar L ρ V β) (s : Grammar L ρ V γ) (start item : κ) : Prop :=
  (∃ e, rules.EndsWith read s item (.failure e)) ∨
    (∃ w, rules.EndsWith read s item (.success w start)) ∨
    ∃ w next e, rules.EndsWith read s item (.success w next) ∧ Cursor.Precedes start next ∧
      rules.EndsWith read p next (.failure e)

/-- Rounds from `c` yield the outcome `o`: they go on to the last item, and `o` leaves off where
that item ends. -/
def ItemsTo (rules : Rules L ρ V) (read : {β : Type} → L β → κ → Outcome κ ParseError β)
    (p : Grammar L ρ V β) (s : Grammar L ρ V γ) (c : κ) (o : Outcome κ ParseError (List β)) :
    Prop :=
  ∃ vs start v item, Rounds (rules.SeparatedRound read p s) c vs start ∧
    rules.EndsWith read p start (.success v item) ∧ rules.LastItem read p s start item ∧
    o = .success (vs ++ [v]) item

variable {rules : Rules L ρ V} {read : {β : Type} → L β → κ → Outcome κ ParseError β}
  {p : Grammar L ρ V β} {s : Grammar L ρ V γ} {c confirmed : κ}
  {o : Outcome κ ParseError (List β)}

theorem ItemsTo.cons {v : β} {d : κ} (h : rules.ItemsTo read p s d o)
    (hround : rules.SeparatedRound read p s c v d) :
    rules.ItemsTo read p s c (o.map fun vs _ => v :: vs) := by
  obtain ⟨vs, start, v', item, hrounds, hitem, hlast, rfl⟩ := h
  exact ⟨v :: vs, start, v', item, .cons hround hrounds, hitem, hlast, rfl⟩

theorem ItemsTo.single {v : β} {item : κ} (h : rules.EndsWith read p c (.success v item))
    (hlast : rules.LastItem read p s c item) :
    rules.ItemsTo read p s c (.success [v] item) :=
  ⟨[], c, v, item, .nil c, h, hlast, rfl⟩

section
variable (w : Cursor.Ordered good) (hp : rules.Advances read good p)
  (hs : rules.Advances read good s) (hc : good c)
include w hc

section
include hp hs

theorem SeparatedEndsWith.itemsTo (h : rules.SeparatedEndsWith read p s confirmed c o) :
    (∃ e, rules.EndsWith read p c (.failure e)) ∧ o = .success [] confirmed ∨
      rules.ItemsTo read p s c o := by
  refine w.induction (motive := fun c => ∀ confirmed o,
    rules.SeparatedEndsWith read p s confirmed c o →
      (∃ e, rules.EndsWith read p c (.failure e)) ∧ o = .success [] confirmed ∨
        rules.ItemsTo read p s c o) (fun c hc ih confirmed o h => ?_) hc confirmed o h
  rcases separatedEndsWith_iff.mp h with ⟨v, item, hitem, h⟩ | ⟨e, he, rfl⟩
  · right
    have hci := hp c v item hc hitem
    rcases h with ⟨u, d, hd, h⟩ | ⟨e, he, rfl⟩
    · have hcd := hci.trans (hs item u d (hci.preserves w.next_mem hc) hd)
      rcases w.eq_or_precedes hc hcd with rfl | hlater
      · rw [if_pos (w.beq_self hc)] at h
        exact h ▸ .single hitem (Or.inr (Or.inl ⟨u, hd⟩))
      · rw [if_neg (w.not_beq hc hlater)] at h
        obtain ⟨o', ho', rfl⟩ := h
        -- Without an item after the separator, the rest of the repetition is empty and leaves off
        -- at the end of this item.
        rcases ih d hlater item o' ho' with ⟨⟨e, he⟩, rfl⟩ | hitems
        · exact .single hitem (Or.inr (Or.inr ⟨u, d, e, hd, hlater, he⟩))
        · exact hitems.cons ⟨item, u, hitem, hd, hlater⟩
    · exact .single hitem (Or.inl ⟨e, he⟩)
  · exact Or.inl ⟨⟨e, he⟩, rfl⟩

end

theorem separatedEndsWith_single {v : β} {item : κ}
    (h : rules.EndsWith read p c (.success v item)) (hlast : rules.LastItem read p s c item) :
    rules.SeparatedEndsWith read p s confirmed c (.success [v] item) := by
  refine separatedEndsWith_iff.mpr (Or.inl ⟨v, item, h, ?_⟩)
  rcases hlast with ⟨e, he⟩ | ⟨u, hu⟩ | ⟨u, d, e, hd, hlater, he⟩
  · exact Or.inr ⟨e, he, rfl⟩
  · exact Or.inl ⟨u, c, hu, by rw [if_pos (w.beq_self hc)]⟩
  · refine Or.inl ⟨u, d, hd, ?_⟩
    rw [if_neg (w.not_beq hc hlater)]
    exact ⟨.success [] item, separatedEndsWith_iff.mpr (Or.inr ⟨e, he, rfl⟩), rfl⟩

theorem separatedEndsWith_cons {v : β} {d item : κ} {u : γ}
    (hitem : rules.EndsWith read p c (.success v item))
    (hd : rules.EndsWith read s item (.success u d)) (hlater : Cursor.Precedes c d)
    (h : rules.SeparatedEndsWith read p s item d o) :
    rules.SeparatedEndsWith read p s confirmed c (o.map fun vs _ => v :: vs) := by
  refine separatedEndsWith_iff.mpr (Or.inl ⟨v, item, hitem, Or.inl ⟨u, d, hd, ?_⟩⟩)
  rw [if_neg (w.not_beq hc hlater)]
  exact ⟨o, h, rfl⟩

theorem ItemsTo.separatedEndsWith (h : rules.ItemsTo read p s c o) :
    rules.SeparatedEndsWith read p s confirmed c o := by
  obtain ⟨vs, start, v, item, hrounds, hitem, hlast, rfl⟩ := h
  induction hrounds generalizing confirmed with
  | nil c => exact separatedEndsWith_single w hc hitem hlast
  | @cons c d start u us h _ ih =>
    obtain ⟨before, x, hbefore, hd, hlater⟩ := h
    exact separatedEndsWith_cons w hc hbefore hd hlater
      (ih (hlater.1.preserves w.next_mem hc) hitem hlast)

include hp hs

theorem exists_separatedEndsWith
    (h : ∀ vs d, Rounds (rules.SeparatedRound read p s) c vs d →
      (∃ o, rules.EndsWith read p d o) ∧ ∀ v item,
        rules.EndsWith read p d (.success v item) → ∃ o, rules.EndsWith read s item o) :
    ∃ o, rules.SeparatedEndsWith read p s confirmed c o := by
  refine w.induction (motive := fun c => ∀ confirmed,
    (∀ vs d, Rounds (rules.SeparatedRound read p s) c vs d →
      (∃ o, rules.EndsWith read p d o) ∧ ∀ v item,
        rules.EndsWith read p d (.success v item) → ∃ o, rules.EndsWith read s item o) →
      ∃ o, rules.SeparatedEndsWith read p s confirmed c o)
    (fun c hc ih confirmed h => ?_) hc confirmed h
  obtain ⟨⟨⟨v, item⟩ | e, ho⟩, hsep⟩ := h [] c (.nil c)
  · have hci := hp c v item hc ho
    obtain ⟨⟨u, d⟩ | e, ho'⟩ := hsep v item ho
    · have hcd := hci.trans (hs item u d (hci.preserves w.next_mem hc) ho')
      rcases w.eq_or_precedes hc hcd with rfl | hlater
      · exact ⟨_, separatedEndsWith_single w hc ho (Or.inr (Or.inl ⟨u, ho'⟩))⟩
      · obtain ⟨o, hrest⟩ := ih d hlater item fun vs last hrounds =>
          h (v :: vs) last (.cons ⟨item, u, ho, ho', hlater⟩ hrounds)
        exact ⟨_, separatedEndsWith_cons w hc ho ho' hlater hrest⟩
    · exact ⟨_, separatedEndsWith_single w hc ho (Or.inl ⟨e, ho'⟩)⟩
  · exact ⟨_, separatedEndsWith_iff.mpr (Or.inr ⟨e, ho, rfl⟩)⟩

end

/-- What a repetition with separators does from `c` on. -/
structure SeparatesInRounds (rules : Rules L ρ V)
    (read : {β : Type} → L β → κ → Outcome κ ParseError β) (p : Grammar L ρ V β)
    (s : Grammar L ρ V γ) (c : κ) : Prop where
  /-- It ends as its rounds say, and so never with a failure. -/
  endsWith_iff : ∀ o, rules.EndsWith read (.sepBy p s) c o ↔
    (∃ e, rules.EndsWith read p c (.failure e)) ∧ o = .success [] c ∨ rules.ItemsTo read p s c o
  /-- It ends if the item does wherever one is expected, and the separator after every item. -/
  ends : (∀ vs d, Rounds (rules.SeparatedRound read p s) c vs d →
      (∃ o, rules.EndsWith read p d o) ∧ ∀ v item,
        rules.EndsWith read p d (.success v item) → ∃ o, rules.EndsWith read s item o) →
    ∃ o, rules.EndsWith read (.sepBy p s) c o
  /-- It starts the item once more than there are atoms left, at most. -/
  starts_le : ∀ name budget, (∀ d, (rules.run read budget p d).starts name = 0) →
    (∀ d, (rules.run read budget s d).starts name = 0) →
    (rules.run read budget (.sepBy (.traced name p) s) c).starts name ≤
      (Cursor.remaining c).length + 1

theorem separatesInRounds (w : Cursor.Ordered good) (hp : rules.Advances read good p)
    (hs : rules.Advances read good s) (hc : good c) : rules.SeparatesInRounds read p s c where
  endsWith_iff o := by
    rw [endsWith_sepBy_iff]
    refine ⟨fun h => h.itemsTo w hp hs hc, ?_⟩
    rintro (⟨⟨e, he⟩, rfl⟩ | h)
    · exact separatedEndsWith_iff.mpr (Or.inr ⟨e, he, rfl⟩)
    · exact h.separatedEndsWith w hc
  ends h := by
    have hends : ∃ o, rules.SeparatedEndsWith read p s c c o :=
      exists_separatedEndsWith w hp hs hc h
    simpa only [endsWith_sepBy_iff] using hends
  starts_le name budget hquiet hquiet' :=
    Parser.starts_separated_le w ((hp.run budget).traced name) (hs.run budget)
      (Parser.starts_traced_le hquiet) hquiet' budget hc

end Rules

/-- A repetition with separators whose parts leave suffixes goes through rounds, on every text and
on every sequence of atoms that equal themselves. -/
theorem separated_repetition_in_rounds :
    (∀ {L : Type → Type} {ρ V β γ : Type} (rules : Rules L ρ V)
      (read : {β : Type} → L β → TextCursor → Outcome TextCursor ParseError β)
      (source : Source Char) (p : Grammar L ρ V β) (s : Grammar L ρ V γ) (start : TextCursor),
      (∀ c v rest, c.Walks source → rules.EndsWith read p c (.success v rest) →
        rest.Follows c) →
      (∀ c v rest, c.Walks source → rules.EndsWith read s c (.success v rest) →
        rest.Follows c) →
      start.Walks source → rules.SeparatesInRounds read p s start) ∧
    ∀ {L : Type → Type} {α ρ V β γ : Type} [BEq α] [Atom α] (rules : Rules L ρ V)
      (read : {β : Type} → L β → ElementCursor α → Outcome (ElementCursor α) ParseError β)
      (source : Source α) (p : Grammar L ρ V β) (s : Grammar L ρ V γ) (start : ElementCursor α),
      (∀ a ∈ source.elements, (a == a) = true) →
      (∀ c v rest, c.Walks source → rules.EndsWith read p c (.success v rest) →
        rest.Follows c) →
      (∀ c v rest, c.Walks source → rules.EndsWith read s c (.success v rest) →
        rest.Follows c) →
      start.Walks source → rules.SeparatesInRounds read p s start := by
  constructor
  · intro L ρ V β γ rules read source p s start hp hs hstart
    exact Rules.separatesInRounds (TextCursor.ordered_walks source)
      (fun c v rest hc h => TextCursor.reaches_of_follows hc.2 (hp c v rest hc h))
      (fun c v rest hc h => TextCursor.reaches_of_follows hc.2 (hs c v rest hc h)) hstart
  · intro L α ρ V β γ _ _ rules read source p s start hself hp hs hstart
    exact Rules.separatesInRounds (ElementCursor.ordered_walks hself)
      (fun c v rest hc h => ElementCursor.reaches_of_follows hc.2 (hp c v rest hc h))
      (fun c v rest hc h => ElementCursor.reaches_of_follows hc.2 (hs c v rest hc h)) hstart

/-- On text the repetition stops where item and separator take nothing, and on the sequence at a
separator that no item follows. -/
theorem separated_repetition_in_rounds_at_work :
    (let s : Source Char := ⟨0, ['a', 'a', 'b']⟩
      let rules : Rules TextLeaf Empty Unit := fun r => r.elim
      let p : Grammar TextLeaf Empty Unit Char :=
        (Grammar.leaf (.inl (.exactly 'a'))).withDefault '-'
      let t : Grammar TextLeaf Empty Unit Bool := .leaf (.inl .ended)
      rules.SeparatesInRounds TextLeaf.read p t ⟨s, 0⟩ ∧
        rules.EndsWith TextLeaf.read (.sepBy p t) ⟨s, 0⟩ (.success ['a', 'a', '-'] ⟨s, 2⟩)) ∧
    let s : Source Token := ⟨1, [.comma, .newline, .comma, .newline]⟩
    let rules : Rules (Leaf Token) Empty Unit := fun r => r.elim
    let p : Grammar (Leaf Token) Empty Unit Token := .leaf (.exactly .comma)
    let t : Grammar (Leaf Token) Empty Unit Token := .leaf (.exactly .newline)
    rules.SeparatesInRounds Leaf.read p t (ElementCursor.within s 0) ∧
      rules.EndsWith Leaf.read (.sepBy p t) (ElementCursor.within s 0)
        (.success [.comma, .comma] (ElementCursor.within s 3)) := by
  constructor
  · intro s rules p t
    have hp : p.AllLeaves (Onward TextLeaf.read (TextCursor.Walks s)) :=
      ⟨fun c v rest hc => TextLeaf.reaches_of_read hc.2 rfl, trivial⟩
    have ht : t.AllLeaves (Onward TextLeaf.read (TextCursor.Walks s)) :=
      fun c v rest hc => TextLeaf.reaches_of_read hc.2 rfl
    have hrounds : rules.SeparatesInRounds TextLeaf.read p t ⟨s, 0⟩ :=
      separated_repetition_in_rounds.1 rules TextLeaf.read s p t ⟨s, 0⟩
        (fun c v rest hc => TextCursor.follows_of_endsWith (fun r _ _ => r.elim) hp hc)
        (fun c v rest hc => TextCursor.follows_of_endsWith (fun r _ _ => r.elim) ht hc)
        ⟨rfl, TextCursor.onBoundary_start s⟩
    have hseparator : ∀ n, rules.EndsWith TextLeaf.read t ⟨s, n⟩
        (.success (Cursor.atEnd (⟨s, n⟩ : TextCursor)) ⟨s, n⟩) :=
      fun n => Rules.endsWith_leaf _
    have hfirst : rules.SeparatedRound TextLeaf.read p t ⟨s, 0⟩ 'a' ⟨s, 1⟩ :=
      ⟨_, _, Rules.endsWith_of_run (n := 0) rfl, hseparator 1, ⟨1, rfl⟩, Nat.zero_lt_one⟩
    have hsecond : rules.SeparatedRound TextLeaf.read p t ⟨s, 1⟩ 'a' ⟨s, 2⟩ :=
      ⟨_, _, Rules.endsWith_of_run (n := 0) rfl, hseparator 2, ⟨1, rfl⟩, Nat.one_lt_two⟩
    have hitem : rules.EndsWith TextLeaf.read p ⟨s, 2⟩ (.success '-' ⟨s, 2⟩) :=
      Rules.endsWith_of_run (n := 0) rfl
    exact ⟨hrounds, (hrounds.endsWith_iff _).mpr (Or.inr ⟨['a', 'a'], ⟨s, 2⟩, '-', ⟨s, 2⟩,
      .cons hfirst (.cons hsecond (.nil _)), hitem, Or.inr (Or.inl ⟨_, hseparator 2⟩), rfl⟩)⟩
  · intro s rules p t
    have hleaf : ∀ a : Token, (Grammar.leaf (.exactly a) : Grammar (Leaf Token) Empty Unit
        Token).AllLeaves (Onward Leaf.read (ElementCursor.Walks s)) :=
      fun a c v rest _ => Leaf.reaches_of_read rfl
    have hrounds : rules.SeparatesInRounds Leaf.read p t (ElementCursor.within s 0) :=
      separated_repetition_in_rounds.2 rules Leaf.read s p t (ElementCursor.within s 0) (by decide)
        (fun c v rest hc => ElementCursor.follows_of_endsWith (fun r _ _ => r.elim) (hleaf _) hc)
        (fun c v rest hc => ElementCursor.follows_of_endsWith (fun r _ _ => r.elim) (hleaf _) hc)
        ⟨rfl, Nat.zero_lt_succ 3⟩
    have hfirst : rules.SeparatedRound Leaf.read p t (ElementCursor.within s 0) .comma
        (ElementCursor.within s 2) :=
      ⟨ElementCursor.within s 1, .newline, Rules.endsWith_of_run (n := 0) rfl,
        Rules.endsWith_of_run (n := 0) rfl, ⟨2, rfl⟩, Nat.zero_lt_two⟩
    have hitem : rules.EndsWith Leaf.read p (ElementCursor.within s 2)
        (.success .comma (ElementCursor.within s 3)) :=
      Rules.endsWith_of_run (n := 0) rfl
    have hlast : rules.LastItem Leaf.read p t (ElementCursor.within s 2)
        (ElementCursor.within s 3) :=
      Or.inr (Or.inr ⟨.newline, ElementCursor.finished s, .endOfInput ⟨4, 3, 0⟩,
        Rules.endsWith_of_run (n := 0) rfl, ⟨⟨2, rfl⟩, by decide⟩,
        Rules.endsWith_of_run (n := 0) rfl⟩)
    exact ⟨hrounds, (hrounds.endsWith_iff _).mpr (Or.inr ⟨[.comma], ElementCursor.within s 2,
      .comma, ElementCursor.within s 3, .cons hfirst (.nil _), hitem, hlast, rfl⟩)⟩

end Descent
