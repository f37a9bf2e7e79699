import Descent.Proofs.Grammar.Outcomes
import Descent.Proofs.Grammar.Simulation
import Descent.Proofs.Leaf.Walk

/-!
# Grammars with a hole

A grammar with a hole can be filled with any grammar, at all the places where the hole stands and
in all the rules that are called. The ways to put grammars together never look inside an error: two
fillings that succeed alike, and fail at the same cursors with whatever errors, cannot be told apart
by what is around them.
-/
namespace Descent

/-- The leaves `L`, and a hole for a grammar that yields `η`. -/
inductive Holed (L : Type → Type) (η β : Type) where
  | solid (l : L β)
  | hole (h : η = β)

section
variable {L : Type → Type} {ρ V η κ α : Type}

/-- Puts a grammar into the hole, wherever it stands. -/
def Grammar.fill :
    {β : Type} → Grammar (Holed L η) ρ V β → Grammar L ρ V η → Grammar L ρ V β
  | _, leaf (.solid l), _ => leaf l
  | _, leaf (.hole h), p => h ▸ p
  | _, succeed v, _ => succeed v
  | _, reject message, _ => reject message
  | _, orElse g h, p => orElse (g.fill p) (h.fill p)
  | _, bind g k, p => bind (g.fill p) fun v => (k v).fill p
  | _, many g, p => many (g.fill p)
  | _, sepBy g s, p => sepBy (g.fill p) (s.fill p)
  | _, defer label g, p => defer label (g.fill p)
  | _, traced name g, p => traced name (g.fill p)
  | _, call r, _ => call r

/-- Puts a grammar into the hole of every rule. -/
def Rules.fill (rules : Rules (Holed L η) ρ V) (p : Grammar L ρ V η) : Rules L ρ V :=
  fun r => (rules r).map (·.fill p)

variable [Cursor κ α]

/-- From the cursors of the source `s`, the leaf leaves off in `s`. A hole is no leaf. -/
def Holed.StaysIn (read : {β : Type} → L β → κ → Outcome κ ParseError β) (s : Source α) {β : Type} :
    Holed L η β → Prop
  | solid l => ∀ c v rest, Cursor.source c = s → read l c = .success v rest →
      Cursor.source rest = s
  | hole _ => True

/-- One and the same cursor, in the source `s`. -/
def Cursor.SameIn (s : Source α) (c d : κ) : Prop :=
  c = d ∧ source c = s

theorem Cursor.SameIn.symm {s : Source α} {c d : κ} (h : SameIn s c d) : SameIn s d c :=
  ⟨h.1.symm, h.1 ▸ h.2⟩

end

namespace Rules
variable {L : Type → Type} {ρ V η κ α β γ : Type} [Cursor κ α]
  {read : {β : Type} → L β → κ → Outcome κ ParseError β} {s : Source α}
  {E : ParseError → ParseError → Prop}

/-- What the one parse ends with, the other ends with too, up to errors related by `E`. So both end
or neither does. -/
structure EndAlike (s : Source α) (E : ParseError → ParseError → Prop) (rules rules' : Rules L ρ V)
    (read : {β : Type} → L β → κ → Outcome κ ParseError β) (p q : Grammar L ρ V β) (c : κ) :
    Prop where
  forth : ∀ o, rules.EndsWith read p c o →
    ∃ o', rules'.EndsWith read q c o' ∧ o.Alike (Cursor.SameIn s) E o'
  back : ∀ o', rules'.EndsWith read q c o' →
    ∃ o, rules.EndsWith read p c o ∧ o.Alike (Cursor.SameIn s) E o'

theorem endAlike_of_alike {rules rules' : Rules L ρ V} {p q : Grammar L ρ V β} {c : κ}
    {o o' : Outcome κ ParseError β} (h : rules.EndsWith read p c o)
    (h' : rules'.EndsWith read q c o') (ho : o.Alike (Cursor.SameIn s) E o') :
    EndAlike s E rules rules' read p q c where
  forth _ hp := ⟨o', h', hp.unique h ▸ ho⟩
  back _ hq := ⟨o, h, hq.unique h' ▸ ho⟩

theorem EndAlike.imp {E' : ParseError → ParseError → Prop} {rules rules' : Rules L ρ V}
    {p q : Grammar L ρ V β} {c : κ} (h : EndAlike s E rules rules' read p q c)
    (hE : ∀ e e', E e e' → E' e e') : EndAlike s E' rules rules' read p q c where
  forth o ho :=
    let ⟨o', ho', halike⟩ := h.forth o ho
    ⟨o', ho', halike.imp (fun _ _ h => h) hE⟩
  back o ho :=
    let ⟨o', ho', halike⟩ := h.back o ho
    ⟨o', ho', halike.imp (fun _ _ h => h) hE⟩

/-- At the cursors of the source `s`, whatever the parser `p` ends with, the grammar `q` ends with
too, up to errors related by `E`. -/
def Matches (rules : Rules L ρ V) (read : {β : Type} → L β → κ → Outcome κ ParseError β)
    (s : Source α) (E : ParseError → ParseError → Prop) (p : Parser κ β) (q : Grammar L ρ V β) :
    Prop :=
  ∀ c o, Cursor.source c = s → (p c).outcome? = some o →
    ∃ o', rules.EndsWith read q c o' ∧ o.Alike (Cursor.SameIn s) E o'

namespace Matches
variable {rules : Rules L ρ V} {p p' : Parser κ β} {q q' : Grammar L ρ V β}

theorem success (h : rules.Matches read s E p q) {c d : κ} {v : β} (hc : Cursor.source c = s)
    (hp : (p c).outcome? = some (.success v d)) :
    rules.EndsWith read q c (.success v d) ∧ Cursor.source d = s := by
  obtain ⟨o', hq, ho⟩ := h c _ hc hp
  cases ho with
  | success _ hd =>
    obtain ⟨rfl, hs⟩ := hd
    exact ⟨hq, hs⟩

theorem failure (h : rules.Matches read s E p q) {c : κ} {e : ParseError}
    (hc : Cursor.source c = s) (hp : (p c).outcome? = some (.failure e)) :
    ∃ e', rules.EndsWith read q c (.failure e') ∧ E e e' := by
  obtain ⟨o', hq, ho⟩ := h c _ hc hp
  cases ho with
  | failure he => exact ⟨_, hq, he⟩

theorem orElse (hp : rules.Matches read s E p q) (hp' : rules.Matches read s E p' q') :
    rules.Matches read s E (p.orElse p') (q.orElse q') := by
  intro c o hc h
  rcases Run.ends_of_continueWith h with ⟨v, d, hd, ho⟩ | ⟨e, he, ho⟩
  · obtain ⟨hq, hs⟩ := hp.success hc hd
    obtain rfl := Option.some.inj ho
    exact ⟨_, endsWith_orElse_iff.mpr (Or.inl ⟨v, d, hq, rfl⟩), .success v ⟨rfl, hs⟩⟩
  · obtain ⟨e', hq, _⟩ := hp.failure hc he
    obtain ⟨o', hq', ho'⟩ := hp' c o hc ho
    exact ⟨o', endsWith_orElse_iff.mpr (Or.inr ⟨e', hq, hq'⟩), ho'⟩

theorem bind {k : β → Parser κ γ} {k' : β → Grammar L ρ V γ} (hp : rules.Matches read s E p q)
    (hk : ∀ v, rules.Matches read s E (k v) (k' v)) :
    rules.Matches read s E (p.bind k) (q.bind k') := by
  intro c o hc h
  rcases Run.ends_of_continueWith h with ⟨v, d, hd, ho⟩ | ⟨e, he, ho⟩
  · obtain ⟨hq, hs⟩ := hp.success hc hd
    obtain ⟨o', hk', ho'⟩ := hk v d o hs ho
    exact ⟨o', endsWith_bind_iff.mpr (Or.inl ⟨v, d, hq, hk'⟩), ho'⟩
  · obtain ⟨e', hq, he'⟩ := hp.failure hc he
    obtain rfl := Option.some.inj ho
    exact ⟨_, endsWith_bind_iff.mpr (Or.inr ⟨e', hq, rfl⟩), .failure he'⟩

/-- The rounds are the same on both sides; the error that ends the last one is forgotten. -/
theorem many (hp : rules.Matches read s E p q) (budget : Nat) :
    rules.Matches read s E (p.many budget) (.many q) := by
  induction budget with
  | zero =>
    intro c o _ h
    simp [Parser.many, Parser.diverge] at h
  | succ budget ih =>
    intro c o hc h
    rw [Parser.many] at h
    rcases Run.ends_of_continueWith h with ⟨v, d, hd, ho⟩ | ⟨e, he, ho⟩
    · obtain ⟨hq, hs⟩ := hp.success hc hd
      split at ho
      · next hstop =>
        obtain rfl := Option.some.inj ho
        refine ⟨_, endsWith_many_iff.mpr (Or.inl ⟨v, d, hq, ?_⟩), .success [v] ⟨rfl, hc⟩⟩
        rw [if_pos hstop]
      · next hmove =>
        obtain ⟨o₁, ho₁, rfl⟩ := Run.ends_of_map ho
        obtain ⟨o₂, hrest, ho₂⟩ := ih d o₁ hs ho₁
        refine ⟨_, endsWith_many_iff.mpr (Or.inl ⟨v, d, hq, ?_⟩), ho₂.map (v :: ·)⟩
        rw [if_neg hmove]
        exact ⟨o₂, hrest, rfl⟩
    · obtain ⟨e', hq, _⟩ := hp.failure hc he
      obtain rfl := Option.some.inj ho
      exact ⟨_, endsWith_many_iff.mpr (Or.inr ⟨e', hq, rfl⟩), .success [] ⟨rfl, hc⟩⟩

theorem separated {t : Parser κ γ} {t' : Grammar L ρ V γ} (hp : rules.Matches read s E p q)
    (ht : rules.Matches read s E t t') (budget : Nat) {confirmed next : κ}
    {o : Outcome κ ParseError (List β)} (hconfirmed : Cursor.source confirmed = s)
    (hnext : Cursor.source next = s)
    (h : (p.separated t budget confirmed next).outcome? = some o) :
    ∃ o', rules.SeparatedEndsWith read q t' confirmed next o' ∧
      o.Alike (Cursor.SameIn s) E o' := by
  induction budget generalizing confirmed next o with
  | zero => simp [Parser.separated, Parser.diverge] at h
  | succ budget ih =>
    rw [Parser.separated] at h
    rcases Run.ends_of_continueWith h with ⟨v, item, hitem, h⟩ | ⟨e, he, ho⟩
    · obtain ⟨hq, hs⟩ := hp.success hnext hitem
      rcases Run.ends_of_continueWith h with ⟨w, following, hfollowing, ho⟩ | ⟨e, he, ho⟩
      · obtain ⟨hq', hs'⟩ := ht.success hs hfollowing
        split at ho
        · next hstop =>
          obtain rfl := Option.some.inj ho
          refine ⟨_, separatedEndsWith_iff.mpr (Or.inl ⟨v, item, hq, Or.inl
            ⟨w, following, hq', ?_⟩⟩), .success [v] ⟨rfl, hs⟩⟩
          rw [if_pos hstop]
        · next hmove =>
          obtain ⟨o₁, ho₁, rfl⟩ := Run.ends_of_map ho
          obtain ⟨o₂, hrest, ho₂⟩ := ih hs hs' ho₁
          refine ⟨_, separatedEndsWith_iff.mpr (Or.inl ⟨v, item, hq, Or.inl
            ⟨w, following, hq', ?_⟩⟩), ho₂.map (v :: ·)⟩
          rw [if_neg hmove]
          exact ⟨o₂, hrest, rfl⟩
      · obtain ⟨e', hq', _⟩ := ht.failure hs he
        obtain rfl := Option.some.inj ho
        exact ⟨_, separatedEndsWith_iff.mpr (Or.inl ⟨v, item, hq, Or.inr ⟨e', hq', rfl⟩⟩),
          .success [v] ⟨rfl, hs⟩⟩
    · obtain ⟨e', hq, _⟩ := hp.failure hnext he
      obtain rfl := Option.some.inj ho
      exact ⟨_, separatedEndsWith_iff.mpr (Or.inr ⟨e', hq, rfl⟩), .success [] ⟨rfl, hconfirmed⟩⟩

theorem traced (hp : rules.Matches read s E p q) (name : String) :
    rules.Matches read s E (p.traced name) (.traced name q) := by
  intro c o hc h
  rw [Parser.outcome?_traced] at h
  obtain ⟨o', hq, ho⟩ := hp c o hc h
  exact ⟨o', endsWith_traced_iff.mpr hq, ho⟩

end Matches

section
variable {rules : Rules (Holed L η) ρ V} {p q : Grammar L ρ V η}
  (hE : ∀ e, E e e)
  (hpq : ∀ n, (rules.fill q).Matches read s E ((rules.fill p).run read n p) q)
include hE hpq

/-- One filling of a grammar matches the other, if it does so for the names that are called. -/
theorem matches_fill {n : Nat}
    (hcall : ∀ r, (rules.fill q).Matches read s E ((rules.fill p).run read n (.call r)) (.call r))
    (g : Grammar (Holed L η) ρ V β) (hg : g.AllLeaves (Holed.StaysIn read s)) :
    (rules.fill q).Matches read s E ((rules.fill p).run read n (g.fill p)) (g.fill q) := by
  induction g with
  | leaf l =>
    cases l with
    | solid l =>
      intro c o hc h
      obtain rfl : read l c = o := by simpa [Grammar.fill, run, Grammar.parser] using h
      refine ⟨_, endsWith_leaf l, ?_⟩
      cases hread : read l c with
      | success v rest => exact .success v ⟨rfl, hg c v rest hc hread⟩
      | failure e => exact .failure (hE e)
    | hole h =>
      cases h
      exact hpq n
  | succeed v =>
    intro c o hc h
    obtain rfl := Option.some.inj h
    exact ⟨_, endsWith_succeed v, .success v ⟨rfl, hc⟩⟩
  | reject message =>
    intro c o hc h
    obtain rfl := Option.some.inj h
    exact ⟨_, endsWith_reject message, .failure (hE _)⟩
  | orElse g g' ih ih' => exact (ih hg.1).orElse (ih' hg.2)
  | bind g k ih ihk => exact (ih hg.1).bind fun v => ihk v (hg.2 v)
  | many g ih => exact (ih hg).many n
  | sepBy g t ih iht =>
    intro c o hc h
    obtain ⟨o', hq, ho⟩ := (ih hg.1).separated (iht hg.2) n hc hc h
    exact ⟨o', endsWith_sepBy_iff.mpr hq, ho⟩
  | defer label g ih => exact ih hg
  | traced name g ih => exact (ih hg).traced name
  | call r => exact hcall r

/-- The hole may be reached through any number of calls: each lowers the budget. -/
theorem matches_call (hrules : rules.AllLeaves (Holed.StaysIn read s)) (n : Nat) (r : ρ) :
    (rules.fill q).Matches read s E ((rules.fill p).run read n (.call r)) (.call r) := by
  induction n generalizing r with
  | zero =>
    intro c o _ h
    simp [run, Grammar.parser, Rules.parser, Parser.diverge] at h
  | succ n ih =>
    intro c o hc h
    cases hr : rules r with
    | ok g =>
      have hp : rules.fill p r = .ok (g.fill p) := by simp [fill, hr, Except.map]
      have hq : rules.fill q r = .ok (g.fill q) := by simp [fill, hr, Except.map]
      rw [run_call_succ hp] at h
      obtain ⟨o', hq', ho⟩ := matches_fill hE hpq ih g (hrules r g hr) c o hc h
      exact ⟨o', (endsWith_call_iff hq).mpr hq', ho⟩
    | error m =>
      have hp : rules.fill p r = .error m := by simp [fill, hr, Except.map]
      have hq : rules.fill q r = .error m := by simp [fill, hr, Except.map]
      rw [run_call_misused hp] at h
      obtain rfl := Option.some.inj h
      exact ⟨_, endsWith_call_misused hq, .failure (hE _)⟩

theorem matches_fill_run (hrules : rules.AllLeaves (Holed.StaysIn read s)) (n : Nat)
    {g : Grammar (Holed L η) ρ V β} (hg : g.AllLeaves (Holed.StaysIn read s)) :
    (rules.fill q).Matches read s E ((rules.fill p).run read n (g.fill p)) (g.fill q) :=
  matches_fill hE hpq (matches_call hE hpq hrules n) g hg

end

theorem EndAlike.matches_run {rules rules' : Rules L ρ V} {p q : Grammar L ρ V β}
    (h : ∀ c, Cursor.source c = s → EndAlike s E rules rules' read p q c) (n : Nat) :
    rules'.Matches read s E (rules.run read n p) q :=
  fun c o hc ho => (h c hc).forth o (endsWith_of_run ho)

theorem EndAlike.symm {rules rules' : Rules L ρ V} {p q : Grammar L ρ V β} {c : κ}
    (h : EndAlike s E rules rules' read p q c) :
    EndAlike s (fun e e' => E e' e) rules' rules read q p c where
  forth o ho :=
    let ⟨o', ho', halike⟩ := h.back o ho
    ⟨o', ho', halike.symm fun _ _ h => h.symm⟩
  back o ho :=
    let ⟨o', ho', halike⟩ := h.forth o ho
    ⟨o', ho', halike.symm fun _ _ h => h.symm⟩

/-- Two fillings that end alike make what is around them end alike. -/
theorem endAlike_fill (hE : ∀ e, E e e) {rules : Rules (Holed L η) ρ V} {p q : Grammar L ρ V η}
    (hrules : rules.AllLeaves (Holed.StaysIn read s))
    (hpq : ∀ c, Cursor.source c = s → EndAlike s E (rules.fill p) (rules.fill q) read p q c)
    {g : Grammar (Holed L η) ρ V β} (hg : g.AllLeaves (Holed.StaysIn read s)) {c : κ}
    (hc : Cursor.source c = s) :
    EndAlike s E (rules.fill p) (rules.fill q) read (g.fill p) (g.fill q) c where
  forth o ho := by
    obtain ⟨n, hn⟩ := endsWith_iff.mp ho
    have hmatch := EndAlike.matches_run hpq
    exact matches_fill_run hE hmatch hrules n hg c o hc hn
  back o ho := by
    obtain ⟨n, hn⟩ := endsWith_iff.mp ho
    have hmatch := EndAlike.matches_run fun c hc => (hpq c hc).symm
    obtain ⟨o', ho', halike⟩ :=
      matches_fill_run (E := fun e e' => E e' e) hE hmatch hrules n hg c o hc hn
    exact ⟨o', ho', halike.symm fun _ _ h => h.symm⟩

end Rules

/-- Errors of one kind, whatever else they say. -/
def ParseError.SameKind (e e' : ParseError) : Prop :=
  sameCode e e' = true

/-- Two grammars that end alike at every cursor of a source, up to what their errors say, can take
each other's place in any grammar and any rules: what is made of them ends alike. If their errors
are of one kind everywhere, so are those of what is made of them, and then its failures are equal as
outcomes. -/
theorem interchangeable_in_context {L : Type → Type} {ρ V η κ α β : Type} [Cursor κ α] [BEq β]
    (rules : Rules (Holed L η) ρ V) (read : {β : Type} → L β → κ → Outcome κ ParseError β)
    (s : Source α) (p q : Grammar L ρ V η) (hrules : rules.AllLeaves (Holed.StaysIn read s))
    (hpq : ∀ c, Cursor.source c = s →
      Rules.EndAlike s (fun _ _ => True) (rules.fill p) (rules.fill q) read p q c)
    (g : Grammar (Holed L η) ρ V β) (hg : g.AllLeaves (Holed.StaysIn read s)) (c : κ)
    (hc : Cursor.source c = s) :
    Rules.EndAlike s (fun _ _ => True) (rules.fill p) (rules.fill q) read (g.fill p) (g.fill q) c ∧
    ((∀ c, Cursor.source c = s →
        Rules.EndAlike s ParseError.SameKind (rules.fill p) (rules.fill q) read p q c) →
      Rules.EndAlike s ParseError.SameKind (rules.fill p) (rules.fill q) read (g.fill p) (g.fill q)
        c ∧
      ∀ e e', (rules.fill p).EndsWith read (g.fill p) c (.failure e) →
        (rules.fill q).EndsWith read (g.fill q) c (.failure e') →
        Outcome.same (.failure e : Outcome κ ParseError β) (.failure e') = true) := by
  refine ⟨Rules.endAlike_fill (fun _ => trivial) hrules hpq hg hc, fun hkind => ?_⟩
  have halike := Rules.endAlike_fill (fun e => beq_self_eq_true (Coded.code e)) hrules hkind hg hc
  refine ⟨halike, fun e e' he he' => ?_⟩
  obtain ⟨o, ho, hsame⟩ := halike.forth _ he
  obtain rfl := ho.unique he'
  cases hsame with
  | failure h => exact h

/-- The leaves for text stay in their source, the return to its start included. -/
theorem TextLeaf.staysIn {η β : Type} (s : Source Char) (l : TextLeaf β) :
    (Holed.solid l : Holed TextLeaf η β).StaysIn TextLeaf.read s := by
  rintro c v rest rfl h
  cases l with
  | inl l =>
    cases hl : l.goesBack with
    | false => exact TextCursor.source_eq_of_reaches (Leaf.reaches_of_read hl h)
    | true =>
      cases l with
      | restart =>
        obtain ⟨-, rfl⟩ := Outcome.success.inj h
        rfl
      | _ => simp [Leaf.goesBack] at hl
  | inr l =>
    cases l with
    | tag xs =>
      change Stretch.readTag xs c = _ at h
      unfold Stretch.readTag at h
      split at h
      · obtain ⟨-, rfl⟩ := Outcome.success.inj h
        rfl
      · split at h <;> simp at h
    | pattern p =>
      change Stretch.readPattern p c = _ at h
      unfold Stretch.readPattern at h
      split at h
      · obtain ⟨-, rfl⟩ := Outcome.success.inj h
        rfl
      · split at h <;> simp at h

/-- A predicate under two names. -/
theorem TextLeaf.endAlike_satisfying {ρ V : Type} {rules rules' : Rules TextLeaf ρ V}
    (expected expected' : String) (accepts : Char → Bool) (c : TextCursor) :
    Rules.EndAlike c.source ParseError.SameKind rules rules' TextLeaf.read
      (.leaf (.inl (.satisfying expected accepts))) (.leaf (.inl (.satisfying expected' accepts)))
      c := by
  refine Rules.endAlike_of_alike (Rules.endsWith_leaf _) (Rules.endsWith_leaf _) ?_
  change (Leaf.readSatisfying expected accepts c).Alike _ _
    (Leaf.readSatisfying expected' accepts c)
  unfold Leaf.readSatisfying
  split
  · exact .failure rfl
  · split
    · exact .success _ ⟨rfl, TextCursor.source_next c⟩
    · exact .failure rfl

/-- An item, or an item in parentheses. -/
def parenthesised : Rules (Holed TextLeaf Char) Unit Char := fun _ =>
  .ok (((Grammar.leaf (.solid (.inl (.exactly '(')))).andThen
    ((Grammar.call ()).before (Grammar.leaf (.solid (.inl (.exactly ')')))))).orElse
      (Grammar.leaf (.hole rfl)))

theorem parenthesised_staysIn (s : Source Char) :
    parenthesised.AllLeaves (Holed.StaysIn TextLeaf.read s) := by
  intro r g hr
  obtain rfl := Except.ok.inj hr
  have hleaf : ∀ ch, (Holed.solid (.inl (.exactly ch)) : Holed TextLeaf Char Char).StaysIn
      TextLeaf.read s := fun ch => TextLeaf.staysIn s (.inl (.exactly ch))
  exact ⟨⟨hleaf '(', fun _ => ⟨trivial, fun _ => ⟨hleaf ')', fun _ => trivial⟩⟩⟩, trivial⟩

/-- As many items as there are, and one more. -/
def parenthesisedRun : Grammar (Holed TextLeaf Char) Unit Char Char :=
  (Grammar.many (.call ())).andThen (.call ())

def letter (expected : String) : Grammar TextLeaf Unit Char Char :=
  .leaf (.inl (.satisfying expected (· == 'x')))

/-- The repetition takes two items, and the call after it finds a parenthesis that does not close. -/
theorem parenthesisedRun_endsWith (expected : String) :
    (parenthesised.fill (letter expected)).EndsWith TextLeaf.read
      (parenthesisedRun.fill (letter expected))
      (TextCursor.start ⟨0, ['x', '(', 'x', ')', '(', 'y']⟩)
      (.failure (.unexpected expected (Atom.describe '(') ⟨4, 1, 4⟩)) := by
  refine Rules.endsWith_bind_iff.mpr (Or.inl
    ⟨['x', 'x'], ⟨⟨0, ['x', '(', 'x', ')', '(', 'y']⟩, 4⟩, ?_, ?_⟩)
  · exact Rules.endsWith_of_run (n := 6) rfl
  · exact Rules.endsWith_of_run (n := 6) rfl

theorem interchangeable_in_context_parenthesised :
    let s : Source Char := ⟨0, ['x', '(', 'x', ')', '(', 'y']⟩
    let p := letter "x"
    let q := letter "a letter x"
    let e : ParseError := .unexpected "x" (Atom.describe '(') ⟨4, 1, 4⟩
    let e' : ParseError := .unexpected "a letter x" (Atom.describe '(') ⟨4, 1, 4⟩
    (parenthesised.fill p).EndsWith TextLeaf.read (parenthesisedRun.fill p) (TextCursor.start s)
        (.failure e) ∧
      (parenthesised.fill q).EndsWith TextLeaf.read (parenthesisedRun.fill q) (TextCursor.start s)
        (.failure e') ∧
      Rules.EndAlike s ParseError.SameKind (parenthesised.fill p) (parenthesised.fill q)
        TextLeaf.read (parenthesisedRun.fill p) (parenthesisedRun.fill q) (TextCursor.start s) ∧
      Outcome.same (.failure e : Outcome TextCursor ParseError Char) (.failure e') = true := by
  intro s p q e e'
  have hkind : ∀ c : TextCursor, c.source = s →
      Rules.EndAlike s ParseError.SameKind (parenthesised.fill p) (parenthesised.fill q)
        TextLeaf.read p q c := by
    rintro c hc
    exact hc ▸ TextLeaf.endAlike_satisfying "x" "a letter x" (· == 'x') c
  have hp := parenthesisedRun_endsWith "x"
  have hq := parenthesisedRun_endsWith "a letter x"
  obtain ⟨-, hsame⟩ := interchangeable_in_context parenthesised TextLeaf.read s p q
    (parenthesised_staysIn s) (fun c hc => (hkind c hc).imp fun _ _ _ => trivial) parenthesisedRun
    ⟨trivial, fun _ => trivial⟩ (TextCursor.start s) rfl
  obtain ⟨halike, hequal⟩ := hsame hkind
  exact ⟨hp, hq, halike, hequal e e' hp hq⟩

end Descent
