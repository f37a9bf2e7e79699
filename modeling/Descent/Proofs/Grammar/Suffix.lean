import Descent.Atom.Token
import Descent.Forward.Store
import Descent.Proofs.Grammar.Induction
import Descent.Proofs.Leaf.Walk

/-!
# What a success leaves

A parse that succeeds hands back a place in the source it was given, at or after the place it
began: the parts of a grammar hold several cursors at a time, and whichever of them they hand on,
walking has led to it. The system may be any set of rules that call each other; a store of forward
declarations is one, with its slots and boxes for names.
-/
namespace Descent

namespace Parser
variable {κ α β γ : Type} [Cursor κ α] {good : κ → Prop}

/-- Every success leaves off at a cursor that steps lead to. -/
def Advances (good : κ → Prop) (p : Parser κ β) : Prop :=
  ∀ c v rest, good c → (p c).outcome? = some (.success v rest) → Cursor.Reaches c rest

namespace Advances
variable {p : Parser κ β}

theorem orElse {q : Parser κ β} (hp : p.Advances good) (hq : q.Advances good) :
    (p.orElse q).Advances good := by
  intro c v rest hc h
  rcases Run.success_of_orElse h with h | ⟨e, _, h⟩
  · exact hp c v rest hc h
  · exact hq c v rest hc h

theorem bind (hnext : ∀ c, good c → good (Cursor.next c)) {k : β → Parser κ γ}
    (hp : p.Advances good) (hk : ∀ v, (k v).Advances good) : (p.bind k).Advances good := by
  intro c w rest hc h
  obtain ⟨v, d, hd, h⟩ := Run.success_of_andThen h
  have hcd := hp c v d hc hd
  exact hcd.trans (hk v d w rest (hcd.preserves hnext hc) h)

theorem many (hnext : ∀ c, good c → good (Cursor.next c)) (hp : p.Advances good) (budget : Nat) :
    (p.many budget).Advances good := by
  induction budget with
  | zero =>
    intro c vs rest _ h
    simp [Parser.many, diverge] at h
  | succ budget ih =>
    intro c vs rest hc h
    rw [Parser.many] at h
    rcases Run.ends_of_continueWith h with ⟨v, d, hd, h⟩ | ⟨e, _, h⟩
    · have hcd := hp c v d hc hd
      split at h
      · exact (Run.success_inj h).2 ▸ Cursor.Reaches.refl c
      · obtain ⟨ws, h, _⟩ := Run.success_of_map h
        exact hcd.trans (ih d ws rest (hcd.preserves hnext hc) h)
    · exact (Run.success_inj h).2 ▸ Cursor.Reaches.refl c

/-- Of the two cursors that a repetition with separators keeps, walking from the start has led to
both, and it leaves off at one or at the end of a further item. -/
theorem separated (hnext : ∀ c, good c → good (Cursor.next c)) {s : Parser κ γ}
    (hp : p.Advances good) (hs : s.Advances good) (budget : Nat) {start confirmed next rest : κ}
    {vs : List β} (hstart : good start) (hconfirmed : Cursor.Reaches start confirmed)
    (hwalk : Cursor.Reaches start next)
    (h : (p.separated s budget confirmed next).outcome? = some (.success vs rest)) :
    Cursor.Reaches start rest := by
  induction budget generalizing confirmed next vs with
  | zero => simp [Parser.separated, diverge] at h
  | succ budget ih =>
    rw [Parser.separated] at h
    rcases Run.ends_of_continueWith h with ⟨v, item, hitem, h⟩ | ⟨e, _, h⟩
    · have hi : Cursor.Reaches start item :=
        hwalk.trans (hp next v item (hwalk.preserves hnext hstart) hitem)
      rcases Run.ends_of_continueWith h with ⟨w, following, hfollowing, h⟩ | ⟨e, _, h⟩
      · have hf : Cursor.Reaches start following :=
          hi.trans (hs item w following (hi.preserves hnext hstart) hfollowing)
        split at h
        · exact (Run.success_inj h).2 ▸ hi
        · obtain ⟨ws, h, _⟩ := Run.success_of_map h
          exact ih hi hf h
      · exact (Run.success_inj h).2 ▸ hi
    · exact (Run.success_inj h).2 ▸ hconfirmed

theorem traced (hp : p.Advances good) (name : String) : (p.traced name).Advances good := by
  intro c v rest hc h
  rcases Run.ends_of_continueWith h with ⟨w, d, hd, h⟩ | ⟨e, _, h⟩
  · obtain ⟨rfl, rfl⟩ := Run.success_inj h
    exact hp c w d hc hd
  · simp at h

end Advances

theorem advances_compositional (hnext : ∀ c, good c → good (Cursor.next c)) :
    Compositional (Advances good) where
  succeed v := by
    intro c w rest _ h
    exact (Run.success_inj h).2 ▸ Cursor.Reaches.refl c
  reject message := by
    intro c v rest _ h
    simp [Parser.reject] at h
  diverge := by
    intro β c v rest _ h
    simp [Parser.diverge] at h
  orElse hp hq := hp.orElse hq
  bind hp hk := hp.bind hnext hk
  many budget hp := hp.many hnext budget
  sepBy budget hp hs := by
    intro c v rest hc h
    exact hp.separated hnext hs budget hc (Cursor.Reaches.refl c) (Cursor.Reaches.refl c) h
  defer label hp := by
    intro c v rest hc h
    exact hp c v rest hc h
  traced name hp := hp.traced name

end Parser

namespace Rules
variable {L : Type → Type} {ρ V κ α β : Type} [Cursor κ α] {good : κ → Prop}
  {read : {β : Type} → L β → κ → Outcome κ ParseError β}
  {rules : Rules L ρ V} {g : Grammar L ρ V β}

/-- A system whose leaves go forward goes forward as a whole. -/
theorem run_advances (hnext : ∀ c, good c → good (Cursor.next c))
    (hrules : rules.AllLeaves (Onward read good)) (hg : g.AllLeaves (Onward read good))
    (budget : Nat) : (rules.run read budget g).Advances good := by
  refine (Parser.advances_compositional hnext).run ?_ ?_ hrules budget g hg
  · intro β l hl c v rest hc h
    rw [Run.outcome?_ofOutcome, Option.some.injEq] at h
    exact hl c v rest hc h
  · intro r m _ c v rest _ h
    simp [Parser.misused] at h

end Rules

/-- What the remainder of a text owes to the place where the parse began. -/
structure TextCursor.Follows (rest start : TextCursor) : Prop where
  source_eq : rest.source = start.source
  start_le : start.offset ≤ rest.offset
  le_end : rest.offset ≤ Utf8.byteSize rest.source.elements
  isSuffixOf : Cursor.isSuffixOf rest start = true
  onBoundary : rest.OnBoundary

theorem TextCursor.follows_of_reaches {start rest : TextCursor} (hs : start.OnBoundary)
    (h : Cursor.Reaches start rest) : rest.Follows start where
  source_eq := source_eq_of_reaches h
  start_le := offset_le_of_reaches hs h
  le_end := (h.preserves walkable.next_mem hs).offset_le
  isSuffixOf := by
    have hsource : Cursor.source rest = Cursor.source start := source_eq_of_reaches h
    have hle : Cursor.position start ≤ Cursor.position rest := offset_le_of_reaches hs h
    simp [Cursor.isSuffixOf, hsource, hle]
  onBoundary := h.preserves walkable.next_mem hs

/-- Every place that follows is one that walking leads to. -/
theorem TextCursor.reaches_of_follows {start rest : TextCursor} (hs : start.OnBoundary)
    (h : rest.Follows start) : Cursor.Reaches start rest :=
  reaches_of_offset_le hs h.onBoundary h.source_eq h.start_le

/-- What the remainder of a sequence owes to the place where the parse began. -/
structure ElementCursor.Follows {α : Type} [BEq α] [Atom α] (rest start : ElementCursor α) :
    Prop where
  source_eq : rest.source = start.source
  start_le : start.position ≤ rest.position
  le_end : rest.position ≤ rest.source.elements.length
  isSuffixOf : Cursor.isSuffixOf rest start = true
  canonical : start.Canonical → rest.Canonical

theorem ElementCursor.follows_of_reaches {α : Type} [BEq α] [Atom α]
    {start rest : ElementCursor α} (hs : start.InBounds) (h : Cursor.Reaches start rest) :
    rest.Follows start where
  source_eq := source_eq_of_reaches h
  start_le := (position_le_of_reaches hs h).2
  le_end := (position_le_of_reaches hs h).1
  isSuffixOf := by
    have hsource : Cursor.source rest = Cursor.source start := source_eq_of_reaches h
    have hle : Cursor.position start ≤ Cursor.position rest := (position_le_of_reaches hs h).2
    simp [Cursor.isSuffixOf, hsource, hle]
  canonical hc := h.preserves walkable.next_mem hc

/-- Every place that follows is one that walking leads to. -/
theorem ElementCursor.reaches_of_follows {α : Type} [BEq α] [Atom α]
    {start rest : ElementCursor α} (hs : start.Canonical) (h : rest.Follows start) :
    Cursor.Reaches start rest :=
  reaches_of_position_le hs (h.canonical hs) h.source_eq h.start_le

/-- A success leaves a suffix of what it was given, on text and on sequences alike: the same
opened source, no earlier place, none past the end, and a place that walking can reach. The leaves
are those of the library, apart from the return to the start, and any that a program brings and
that do not go back either. -/
theorem success_leaves_suffix :
    (∀ {ρ V β : Type} (rules : Rules (OpenLeaf TextLeaf TextCursor) ρ V) (budget : Nat)
      (g : Grammar (OpenLeaf TextLeaf TextCursor) ρ V β) (start rest : TextCursor) (v : β),
      rules.AllLeaves (OpenLeaf.Advances TextLeaf.goesBack) →
      g.AllLeaves (OpenLeaf.Advances TextLeaf.goesBack) → start.OnBoundary →
      (rules.run (OpenLeaf.read TextLeaf.read) budget g start).outcome? = some (.success v rest) →
      rest.Follows start) ∧
    ∀ {α ρ V β : Type} [BEq α] [Atom α] (rules : Rules (OpenLeaf (Leaf α) (ElementCursor α)) ρ V)
      (budget : Nat) (g : Grammar (OpenLeaf (Leaf α) (ElementCursor α)) ρ V β)
      (start rest : ElementCursor α) (v : β),
      rules.AllLeaves (OpenLeaf.Advances Leaf.goesBack) →
      g.AllLeaves (OpenLeaf.Advances Leaf.goesBack) → start.InBounds →
      (rules.run (OpenLeaf.read Leaf.read) budget g start).outcome? = some (.success v rest) →
      rest.Follows start := by
  constructor
  · intro ρ V β rules budget g start rest v hrules hg hstart h
    have hleaf : ∀ {β : Type} (l : OpenLeaf TextLeaf TextCursor β),
        l.Advances TextLeaf.goesBack → Onward (OpenLeaf.read TextLeaf.read) _ l :=
      fun l hl => hl.onward_text fun _ hc => hc
    exact TextCursor.follows_of_reaches hstart (Rules.run_advances TextCursor.walkable.next_mem
      (hrules.imp hleaf) (hg.imp hleaf) budget start v rest hstart h)
  · intro α ρ V β _ _ rules budget g start rest v hrules hg hstart h
    have hleaf : ∀ {β : Type} (l : OpenLeaf (Leaf α) (ElementCursor α) β),
        l.Advances Leaf.goesBack →
          Onward (OpenLeaf.read Leaf.read) ElementCursor.InBounds l :=
      fun l hl => hl.onward_element _
    exact ElementCursor.follows_of_reaches hstart (Rules.run_advances (fun c hc => hc.next.1)
      (hrules.imp hleaf) (hg.imp hleaf) budget start v rest hstart h)

/-- Groups of balanced parentheses. -/
def balanced : Grammar (OpenLeaf TextLeaf TextCursor) (Forward.Target Empty) Unit Unit :=
  (Grammar.many
    ((Grammar.leaf (.ready (.inr (.tag ['('])))).andThen
      ((Grammar.call (.slot 0)).before (Grammar.leaf (.ready (.inr (.tag [')']))))))).erase

/-- A declaration whose definition, balanced parentheses, refers to it through a copy. -/
def parentheses : Forward.Store (OpenLeaf TextLeaf TextCursor) Empty Unit where
  handles := [("parentheses", .owner 0)]
  slots := [.defined { grammar := balanced, held := [.borrowed 0] }]

theorem eq_balanced_of_rules {r : Forward.Target Empty}
    {g : Grammar (OpenLeaf TextLeaf TextCursor) (Forward.Target Empty) Unit Unit}
    (h : parentheses.rules (fun r => r.elim) r = .ok g) : g = balanced := by
  match r with
  | .rule r => exact r.elim
  | .slot 0 => exact (Except.ok.inj h).symm
  | .slot (_ + 1) | .box _ | .unbound => simp [Forward.Store.rules, parentheses] at h

theorem parentheses_allLeaves :
    (parentheses.rules fun r => r.elim).AllLeaves (OpenLeaf.Advances TextLeaf.goesBack) := by
  intro r g hg
  obtain rfl := eq_balanced_of_rules hg
  simp [balanced, Grammar.AllLeaves, Grammar.erase, Grammar.map, Grammar.andThen, Grammar.before,
    OpenLeaf.Advances, TextLeaf.goesBack]

theorem success_leaves_suffix_parentheses :
    (let source : Source Char := ⟨0, ['(', '(', ')', ')', '(']⟩
      let rules := parentheses.rules fun r => r.elim
      (rules.run (OpenLeaf.read TextLeaf.read) 5 (.call (.slot 0)) ⟨source, 0⟩).outcome? =
          some (.success () ⟨source, 4⟩) ∧
        TextCursor.Follows ⟨source, 4⟩ ⟨source, 0⟩) ∧
    let source : Source Token := ⟨1, [.comma, .never, .comma]⟩
    let rules : Rules (OpenLeaf (Leaf Token) (ElementCursor Token)) Empty Unit := fun r => r.elim
    let g : Grammar (OpenLeaf (Leaf Token) (ElementCursor Token)) Empty Unit Unit :=
      .leaf (.custom fun c => .success () (Cursor.next (Cursor.next c)))
    (rules.run (OpenLeaf.read Leaf.read) 0 g (.within source 1)).outcome? =
        some (.success () (.finished source)) ∧
      ElementCursor.Follows (.finished source) (.within source 1) := by
  refine ⟨⟨rfl, ?_⟩, rfl, ?_⟩
  · exact success_leaves_suffix.1 _ 5 (.call (.slot 0)) _ _ () parentheses_allLeaves (by trivial)
      (TextCursor.onBoundary_start _) rfl
  · refine success_leaves_suffix.2 (ρ := Empty) (V := Unit) (fun r => r.elim) 0
      (.leaf (.custom fun c => .success () (Cursor.next (Cursor.next c)))) _ _ ()
      (fun r _ _ => r.elim) ?_ (show 1 ≤ 3 by decide) rfl
    intro c v rest h
    exact ⟨2, (Outcome.success.inj h).2⟩

end Descent
