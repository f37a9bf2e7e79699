import Descent.Atom.Token
import Descent.Proofs.Cursor.Line
import Descent.Proofs.Leaf.Alike

/-!
# A parse sees the remaining input

Of a cursor a grammar sees the atoms it leaves. What lies before it, how the parse came there and
which source it walks make no difference: the loops ask only whether they are back at an earlier
place, and two walks over the same atoms are so at the same rounds. From two cursors that leave
the same, a parse therefore ends alike, and at one distance from where it began.
-/
namespace Descent

/-- The cursors `c` and `d` leave the same atoms, and `c` is as far from `a` as `d` is from `b`. -/
structure Cursor.EquallyFar {κ α : Type} [Cursor κ α] (a b c d : κ) : Prop where
  remaining_eq : remaining c = remaining d
  distance_eq : ∃ k, position c = position a + k ∧ position d = position b + k

/-- The location `l` is as far from position `m` as `l'` is from position `n`. -/
def Location.EquallyFar (m n : Nat) (l l' : Location) : Prop :=
  ∃ k, l.position = m + k ∧ l'.position = n + k

section
variable {L : Type → Type} {κ α β : Type} [Cursor κ α] {good : κ → Prop}
  {read : {β : Type} → L β → κ → Outcome κ ParseError β} {a b c d : κ}

/-- At cursors that leave the same atoms, `f` ends alike after as many steps, and reports errors at
one distance. -/
def SeesRemaining (good : κ → Prop) (f : κ → Outcome κ ParseError β) : Prop :=
  ∀ c d, good c → good d → Cursor.remaining c = Cursor.remaining d →
    (f c).Alike (Cursor.InStep c d)
      (ParseError.Alike (Location.EquallyFar (Cursor.position c) (Cursor.position d))) (f d)

theorem Location.EquallyFar.trans {m n : Nat} {l l' : Location}
    (hcd : ∃ k, Cursor.position c = m + k ∧ Cursor.position d = n + k)
    (h : Location.EquallyFar (Cursor.position c) (Cursor.position d) l l') :
    Location.EquallyFar m n l l' := by
  obtain ⟨k, hc, hd⟩ := hcd
  obtain ⟨j, hl, hl'⟩ := h
  exact ⟨k + j, by omega, by omega⟩

/-- Cursors whose positions and locations count what was taken of the remaining atoms. -/
structure Cursor.Measured (good : κ → Prop) (size : List α → Nat) : Prop extends
    Cursor.Trackable good where
  position_iterate : ∀ c n, good c →
    Cursor.position (Cursor.next^[n] c) = Cursor.position c + size ((Cursor.remaining c).take n)
  position_location : ∀ c : κ, (Cursor.location c).position = Cursor.position c

variable {size : List α → Nat} (w : Cursor.Measured good size) (ha : good a) (hb : good b)
  (hr : Cursor.remaining a = Cursor.remaining b)
include w ha hb hr

theorem Cursor.InStep.equallyFar (h : Cursor.InStep a b c d) : Cursor.EquallyFar a b c d where
  remaining_eq := h.remaining_eq w.toTrackable w.toTrackable ha hb hr
  distance_eq := by
    obtain ⟨n, rfl, rfl⟩ := h
    exact ⟨_, w.position_iterate a n ha, hr ▸ w.position_iterate b n hb⟩

theorem Cursor.InStep.equallyFar_location (h : Cursor.InStep a b c d) :
    Location.EquallyFar (Cursor.position a) (Cursor.position b) (Cursor.location c)
      (Cursor.location d) := by
  obtain ⟨k, hc, hd⟩ := (h.equallyFar w ha hb hr).distance_eq
  exact ⟨k, (w.position_location c).trans hc, (w.position_location d).trans hd⟩

/-- A system whose leaves see the remaining atoms sees nothing else as a whole. -/
theorem Rules.run_equallyFar {ρ V : Type} {rules : Rules L ρ V} {g : Grammar L ρ V β}
    (hrules : rules.AllLeaves fun l => SeesRemaining good (read l))
    (hg : g.AllLeaves fun l => SeesRemaining good (read l)) (budget : Nat) :
    (rules.run read budget g a).Alike (Cursor.EquallyFar a b)
      (ParseError.Alike (Location.EquallyFar (Cursor.position a) (Cursor.position b)))
      (rules.run read budget g b) := by
  have hsimilar : Cursor.Similar (Cursor.InStep a b)
      (Location.EquallyFar (Cursor.position a) (Cursor.position b)) :=
    Cursor.similar_inStep w.toTrackable w.toTrackable ha hb hr fun _ _ h =>
      h.equallyFar_location w ha hb hr
  have hleaf : ∀ {β : Type} (l : L β), SeesRemaining good (read l) → ∀ c d,
      Cursor.InStep a b c d → (read l c).Alike (Cursor.InStep a b)
        (ParseError.Alike (Location.EquallyFar (Cursor.position a) (Cursor.position b)))
        (read l d) := by
    intro β l hl c d hcd
    have hfar := hcd.equallyFar w ha hb hr
    have hread := hl c d (hcd.left.preserves w.next_mem ha) (hcd.right.preserves w.next_mem hb)
      hfar.remaining_eq
    exact hread.imp (fun _ _ h => hcd.trans h) fun _ _ he =>
      he.imp fun _ _ h => h.trans hfar.distance_eq
  have hrun := Rules.run_alike hsimilar.simulation hleaf hrules budget g hg a b
    (Cursor.InStep.refl a b)
  exact hrun.imp (fun _ _ h => h.equallyFar w ha hb hr) fun _ _ h => h

end

theorem TextCursor.measured : Cursor.Measured OnBoundary Utf8.byteSize where
  toTrackable := trackable
  position_iterate _ n h := h.offset_iterate_next n
  position_location := position_location

theorem ElementCursor.measured {α : Type} [BEq α] [Atom α] :
    Cursor.Measured (Sound (α := α)) List.length where
  toTrackable := trackable
  position_iterate _ n h := h.1.position_iterate_next n
  position_location := position_location

/-- The leaf neither tells where the cursor stands nor goes back to the start. -/
def Leaf.IsLocal {α β : Type} (l : Leaf α β) : Prop :=
  l.tellsPosition = false ∧ l.goesBack = false

/-- Stretches of text are read where they stand. -/
def TextLeaf.IsLocal {β : Type} : TextLeaf β → Prop
  | .inl l => l.IsLocal
  | .inr _ => True

theorem Leaf.IsLocal.seesRemaining {κ α β : Type} [Cursor κ α] [BEq α] [Atom α]
    {good : κ → Prop} {size : List α → Nat} (w : Cursor.Measured good size) {l : Leaf α β}
    (hl : l.IsLocal) : SeesRemaining good (l.read (κ := κ)) := by
  intro c d hc hd hr
  have hsimilar := Cursor.similar_inStep w.toTrackable w.toTrackable hc hd hr fun _ _ h =>
    h.equallyFar_location w hc hd hr
  have hback : l.goesBack = true → Cursor.InStep c d (Cursor.restart c) (Cursor.restart d) :=
    fun h => absurd (h.symm.trans hl.2) (by decide)
  exact read_alike hsimilar hl.1 hback (Cursor.InStep.refl c d)

theorem TextLeaf.IsLocal.seesRemaining {β : Type} {l : TextLeaf β} (hl : IsLocal l) :
    SeesRemaining TextCursor.OnBoundary (TextLeaf.read l) := by
  cases l with
  | inl l => exact Leaf.IsLocal.seesRemaining TextCursor.measured hl
  | inr s =>
    intro c d hc hd hr
    exact Stretch.read_alike hc hd hr
      ((Cursor.InStep.refl c d).equallyFar_location TextCursor.measured hc hd hr) s

/-- A leaf of the library is local, and a program promises of its own leaves that they see the
remaining atoms. -/
def OpenLeaf.IsLocal {L : Type → Type} {κ α : Type} [Cursor κ α] (good : κ → Prop)
    (isLocal : {β : Type} → L β → Prop) {β : Type} : OpenLeaf L κ β → Prop
  | ready l => isLocal l
  | custom f => SeesRemaining good f

theorem OpenLeaf.IsLocal.seesRemaining {L : Type → Type} {κ α : Type} [Cursor κ α]
    {good : κ → Prop} {isLocal : {β : Type} → L β → Prop}
    {read : {β : Type} → L β → κ → Outcome κ ParseError β}
    (hlocal : ∀ {β : Type} (l : L β), isLocal l → SeesRemaining good (read l)) {β : Type}
    {l : OpenLeaf L κ β} (hl : l.IsLocal good isLocal) :
    SeesRemaining good (OpenLeaf.read read l) := by
  cases l with
  | ready l => exact hlocal l hl
  | custom f => exact hl

/-- From two cursors that leave the same input a parse ends alike, on text and on sequences alike:
with the same value and the same input left after the same distance, with the same error at the
same distance, or not at all within the budget. -/
theorem parse_sees_remaining :
    (∀ {ρ V β : Type} (rules : Rules (OpenLeaf TextLeaf TextCursor) ρ V) (budget : Nat)
      (g : Grammar (OpenLeaf TextLeaf TextCursor) ρ V β) (a b : TextCursor),
      rules.AllLeaves (OpenLeaf.IsLocal TextCursor.OnBoundary TextLeaf.IsLocal) →
      g.AllLeaves (OpenLeaf.IsLocal TextCursor.OnBoundary TextLeaf.IsLocal) →
      a.OnBoundary → b.OnBoundary → a.remaining = b.remaining →
      (rules.run (OpenLeaf.read TextLeaf.read) budget g a).Alike (Cursor.EquallyFar a b)
        (ParseError.Alike (Location.EquallyFar a.offset b.offset))
        (rules.run (OpenLeaf.read TextLeaf.read) budget g b)) ∧
    ∀ {α ρ V β : Type} [BEq α] [Atom α] (rules : Rules (OpenLeaf (Leaf α) (ElementCursor α)) ρ V)
      (budget : Nat) (g : Grammar (OpenLeaf (Leaf α) (ElementCursor α)) ρ V β)
      (a b : ElementCursor α),
      rules.AllLeaves (OpenLeaf.IsLocal ElementCursor.Sound Leaf.IsLocal) →
      g.AllLeaves (OpenLeaf.IsLocal ElementCursor.Sound Leaf.IsLocal) →
      a.Sound → b.Sound → a.remaining = b.remaining →
      (rules.run (OpenLeaf.read Leaf.read) budget g a).Alike (Cursor.EquallyFar a b)
        (ParseError.Alike (Location.EquallyFar a.position b.position))
        (rules.run (OpenLeaf.read Leaf.read) budget g b) := by
  constructor
  · intro ρ V β rules budget g a b hrules hg ha hb hr
    have hleaf : ∀ {β : Type} (l : OpenLeaf TextLeaf TextCursor β),
        l.IsLocal TextCursor.OnBoundary TextLeaf.IsLocal →
          SeesRemaining TextCursor.OnBoundary (OpenLeaf.read TextLeaf.read l) :=
      fun l hl => hl.seesRemaining fun _ h => h.seesRemaining
    exact Rules.run_equallyFar TextCursor.measured ha hb hr (hrules.imp hleaf) (hg.imp hleaf) budget
  · intro α ρ V β _ _ rules budget g a b hrules hg ha hb hr
    have hleaf : ∀ {β : Type} (l : OpenLeaf (Leaf α) (ElementCursor α) β),
        l.IsLocal ElementCursor.Sound Leaf.IsLocal →
          SeesRemaining ElementCursor.Sound (OpenLeaf.read Leaf.read l) :=
      fun l hl => hl.seesRemaining fun _ h => h.seesRemaining ElementCursor.measured
    exact Rules.run_equallyFar ElementCursor.measured ha hb hr (hrules.imp hleaf) (hg.imp hleaf)
      budget

/-- Pairs of letters, and then one more character. -/
def pairsAndOne : Grammar (OpenLeaf TextLeaf TextCursor) Empty Unit Char :=
  (Grammar.many (Grammar.leaf (.ready (.inr (.tag ['a', 'b']))))).andThen
    (Grammar.leaf (.ready (.inl .any)))

theorem parse_sees_remaining_pairs :
    (let rules : Rules (OpenLeaf TextLeaf TextCursor) Empty Unit := fun r => r.elim
      let a : TextCursor := ⟨⟨0, ['é', '\n', 'a', 'b', 'a', 'b']⟩, 3⟩
      let b : TextCursor := ⟨⟨1, ['a', 'b', 'a', 'b']⟩, 0⟩
      let run := rules.run (OpenLeaf.read TextLeaf.read) 3 pairsAndOne a
      let run' := rules.run (OpenLeaf.read TextLeaf.read) 3 pairsAndOne b
      run.outcome? = some (.failure (.endOfInput ⟨7, 2, 4⟩)) ∧
        run'.outcome? = some (.failure (.endOfInput ⟨4, 1, 4⟩)) ∧
        run.Alike (Cursor.EquallyFar a b)
          (ParseError.Alike (Location.EquallyFar a.offset b.offset)) run') ∧
    let rules : Rules (OpenLeaf (Leaf Token) (ElementCursor Token)) Empty Unit := fun r => r.elim
    let g : Grammar (OpenLeaf (Leaf Token) (ElementCursor Token)) Empty Unit (List Token) :=
      .many (.leaf (.ready (.exactly .comma)))
    let a : ElementCursor Token := .within ⟨0, [.newline, .comma, .comma]⟩ 1
    let b : ElementCursor Token := .within ⟨1, [.comma, .comma]⟩ 0
    let run := rules.run (OpenLeaf.read Leaf.read) 3 g a
    let run' := rules.run (OpenLeaf.read Leaf.read) 3 g b
    run.outcome? =
        some (.success [.comma, .comma] (.finished ⟨0, [.newline, .comma, .comma]⟩)) ∧
      run'.outcome? = some (.success [.comma, .comma] (.finished ⟨1, [.comma, .comma]⟩)) ∧
      run.Alike (Cursor.EquallyFar a b)
        (ParseError.Alike (Location.EquallyFar a.position b.position)) run' := by
  refine ⟨⟨rfl, rfl, ?_⟩, rfl, rfl, ?_⟩
  · refine parse_sees_remaining.1 _ 3 pairsAndOne _ _ (fun r _ _ => r.elim) ?_
      ⟨['é', '\n'], rfl, rfl⟩ ⟨[], rfl, rfl⟩ rfl
    exact ⟨trivial, fun _ => ⟨rfl, rfl⟩⟩
  · refine parse_sees_remaining.2 (ρ := Empty) (V := Unit) (fun r => r.elim) 3
      (.many (.leaf (.ready (.exactly Token.comma)))) _ _ (fun r _ _ => r.elim) ⟨rfl, rfl⟩
      ⟨show 1 < 3 by decide, ?_⟩ ⟨show 0 < 2 by decide, ?_⟩ rfl
    · simp [ElementCursor.source, Token.beq_eq_same, Token.same]
    · simp [ElementCursor.source, Token.beq_eq_same, Token.same]

end Descent
