import Descent.Proofs.Cursor.InStep
import Descent.Proofs.Cursor.Line
import Descent.Proofs.Grammar.Suffix

/-!
# Where errors are located

A run holds several cursors at a time, and an error can arise at any of them and then cross whatever
is around it. All of them lie on the way of the parse: an error is located at a place of the source
that the parse was given, no earlier than where it began. Its line and offset are counted from the
start of the source all the same.

What counts as on the way is a relation between cursors. Leaves that go back to the start of the
source stay in it; what they rule out is only that errors come no earlier than the start.
-/
namespace Descent

/-- The error is a misuse, or it has the location of a cursor that `R` relates to `c`. -/
def ParseError.LocatedFrom {κ α : Type} [Cursor κ α] (R : κ → κ → Prop) (c : κ) (e : ParseError) :
    Prop :=
  (∃ m, e = .misuse m) ∨ ∃ d, R c d ∧ e.location? = some (Cursor.location d)

/-- A success leaves off at a cursor that `R` relates to `c`, and a failure has the location of
one. -/
def Outcome.StaysOn {κ α β : Type} [Cursor κ α] (R : κ → κ → Prop) (c : κ) :
    Outcome κ ParseError β → Prop
  | success _ d => R c d
  | failure e => e.LocatedFrom R c

/-- A relation for the ways that a run goes among the cursors of a set. -/
structure Cursor.Route {κ : Type} (good : κ → Prop) (R : κ → κ → Prop) : Prop where
  refl : ∀ c, good c → R c c
  trans : ∀ {c d e}, R c d → R d e → R c e
  mem : ∀ {c d}, R c d → good d

namespace Run
variable {κ α β γ : Type} [Cursor κ α] {good : κ → Prop} {R : κ → κ → Prop} {c d : κ}

/-- However the run ends, it stays on the way from `c`. -/
def StaysOn (R : κ → κ → Prop) (c : κ) (r : Run κ β) : Prop :=
  ∀ o, r.outcome? = some o → o.StaysOn R c

namespace StaysOn

theorem success {v : β} (h : R c d) : (Run.success v d).StaysOn R c := by
  intro o ho
  obtain rfl := Option.some.inj ho
  exact h

theorem failure {e : ParseError} (h : e.LocatedFrom R c) :
    (Run.failure e : Run κ β).StaysOn R c := by
  intro o ho
  obtain rfl := Option.some.inj ho
  exact h

theorem exhausted : (Run.exhausted : Run κ β).StaysOn R c := by
  intro o ho
  cases ho

theorem after {r : Run κ β} (h : r.StaysOn R c) (log : List Event) :
    (r.after log).StaysOn R c := h

theorem continueWith {r : Run κ β} {f : β → κ → Run κ γ} {g : ParseError → Run κ γ}
    (hr : r.StaysOn R c) (hf : ∀ v d, R c d → (f v d).StaysOn R c)
    (hg : ∀ e, e.LocatedFrom R c → (g e).StaysOn R c) : (r.continueWith f g).StaysOn R c := by
  intro o ho
  rcases ends_of_continueWith ho with ⟨v, d, hd, ho⟩ | ⟨e, he, ho⟩
  · exact hf v d (hr _ hd) o ho
  · exact hg e (hr _ he) o ho

theorem map {r : Run κ β} (h : r.StaysOn R c) (f : β → γ) : (r.map f).StaysOn R c :=
  h.continueWith (fun _ _ hd => success hd) fun _ he => failure he

/-- What stays on the way from a later cursor stays on the way. -/
theorem from_earlier {r : Run κ β} (w : Cursor.Route good R) (hcd : R c d)
    (h : r.StaysOn R d) : r.StaysOn R c := by
  intro o ho
  have hstays := h o ho
  cases o with
  | success v e => exact w.trans hcd hstays
  | failure e =>
    refine hstays.imp_right ?_
    rintro ⟨place, hplace, hlocation⟩
    exact ⟨place, w.trans hcd hplace, hlocation⟩

end StaysOn
end Run

namespace Parser
variable {κ α β γ : Type} [Cursor κ α] {good : κ → Prop} {R : κ → κ → Prop}

/-- From every cursor of the set, the parser stays on its way. -/
def StaysOn (good : κ → Prop) (R : κ → κ → Prop) (p : Parser κ β) : Prop :=
  ∀ c, good c → (p c).StaysOn R c

namespace StaysOn
variable {p : Parser κ β}

theorem later (w : Cursor.Route good R) (hp : p.StaysOn good R) {c d : κ} (h : R c d) :
    (p d).StaysOn R c :=
  (hp d (w.mem h)).from_earlier w h

theorem many (w : Cursor.Route good R) (hp : p.StaysOn good R) (budget : Nat) :
    (p.many budget).StaysOn good R := by
  induction budget with
  | zero => exact fun c _ => .exhausted
  | succ budget ih =>
    intro c hc
    have hstay : R c c := w.refl c hc
    rw [Parser.many]
    refine (hp c hc).continueWith ?_ fun _ _ => .success hstay
    intro v rest hrest
    split
    · exact .success hstay
    · exact (ih.later w hrest).map _

/-- Of the two cursors that a repetition with separators keeps, both stay on the way from the
start. -/
theorem separated (w : Cursor.Route good R) {s : Parser κ γ} (hp : p.StaysOn good R)
    (hs : s.StaysOn good R) (budget : Nat) {start confirmed next : κ}
    (hconfirmed : R start confirmed) (hnext : R start next) :
    (p.separated s budget confirmed next).StaysOn R start := by
  induction budget generalizing confirmed next with
  | zero => exact .exhausted
  | succ budget ih =>
    rw [Parser.separated]
    refine (hp.later w hnext).continueWith ?_ fun _ _ => .success hconfirmed
    intro v item hitem
    refine (hs.later w hitem).continueWith ?_ fun _ _ => .success hitem
    intro _ following hfollowing
    split
    · exact .success hitem
    · exact (ih hitem hfollowing).map _

theorem traced (hp : p.StaysOn good R) (name : String) : (p.traced name).StaysOn good R :=
  fun c hc =>
    ((hp c hc).continueWith (fun _ _ hd => (Run.StaysOn.success hd).after _)
      fun _ he => (Run.StaysOn.failure he).after _).after _

end StaysOn

theorem staysOn_compositional (w : Cursor.Route good R) : Compositional (StaysOn good R) where
  succeed _ c hc := .success (w.refl c hc)
  reject _ c hc := .failure (Or.inr ⟨c, w.refl c hc, rfl⟩)
  diverge _ _ := .exhausted
  orElse hp hq c hc := (hp c hc).continueWith (fun _ _ hd => .success hd) fun _ _ => hq c hc
  bind hp hk c hc :=
    (hp c hc).continueWith (fun v _ hd => (hk v).later w hd) fun _ he => .failure he
  many budget hp := hp.many w budget
  sepBy budget hp hs c hc := hp.separated w hs budget (w.refl c hc) (w.refl c hc)
  defer _ hp c hc := (hp c hc).after _
  traced name hp := hp.traced name

end Parser

/-- The leaf stays on the way from every cursor of the set. -/
def Confined {L : Type → Type} {κ α : Type} [Cursor κ α]
    (read : {β : Type} → L β → κ → Outcome κ ParseError β) (good : κ → Prop) (R : κ → κ → Prop)
    {β : Type} (l : L β) : Prop :=
  ∀ c, good c → (read l c).StaysOn R c

/-- A system whose leaves stay on the way stays on it as a whole. -/
theorem Rules.run_staysOn {L : Type → Type} {ρ V κ α β : Type} [Cursor κ α] {good : κ → Prop}
    {R : κ → κ → Prop} {read : {β : Type} → L β → κ → Outcome κ ParseError β}
    {rules : Rules L ρ V} {g : Grammar L ρ V β} (w : Cursor.Route good R)
    (hrules : rules.AllLeaves (Confined read good R)) (hg : g.AllLeaves (Confined read good R))
    (budget : Nat) : (rules.run read budget g).StaysOn good R := by
  refine (Parser.staysOn_compositional w).run ?_ ?_ hrules budget g hg
  · intro β l hl c hc o ho
    rw [Run.outcome?_ofOutcome, Option.some.injEq] at ho
    exact ho ▸ hl c hc
  · intro r m _ c _
    exact .failure (Or.inl ⟨m, rfl⟩)

/-! ## The leaves of the library -/

namespace Leaf
variable {κ α β : Type} [Cursor κ α] [BEq α] [Atom α] {c : κ} {e : ParseError}

theorem located_of_readSatisfying {expected : String} {accepts : α → Bool}
    (h : readSatisfying expected accepts c = .failure e) :
    e.location? = some (Cursor.location c) := by
  unfold readSatisfying at h
  split at h
  · rw [← Outcome.failure.inj h]
    rfl
  · split at h
    · cases h
    · rw [← Outcome.failure.inj h]
      rfl

/-- A literal fails at the first of its atoms that it does not find. -/
theorem located_of_readLiteral {xs : List α} (h : readLiteral xs c = .failure e) :
    ∃ d, Cursor.Reaches c d ∧ e.location? = some (Cursor.location d) := by
  induction xs generalizing c with
  | nil => cases h
  | cons x xs ih =>
    rw [readLiteral] at h
    cases hx : readExactly x c with
    | failure e' =>
      rw [hx] at h
      obtain rfl := Outcome.failure.inj h
      exact ⟨c, .refl c, located_of_readSatisfying hx⟩
    | success a b =>
      cases hxs : readLiteral xs b with
      | success zs d => simp [hx, hxs, Outcome.flatMap, Outcome.map] at h
      | failure e' =>
        simp only [hx, hxs, Outcome.flatMap, Outcome.map, Outcome.failure.injEq] at h
        obtain rfl := h
        obtain ⟨d, hd, hlocation⟩ := ih hxs
        exact ⟨d, (reaches_of_readSatisfying hx).trans hd, hlocation⟩

theorem located_of_read {l : Leaf α β} (h : l.read c = .failure e) :
    ∃ d, Cursor.Reaches c d ∧ e.location? = some (Cursor.location d) := by
  cases l with
  | any | satisfying | exactly => exact ⟨c, .refl c, located_of_readSatisfying h⟩
  | literal xs => exact located_of_readLiteral h
  | peek | finish =>
    simp only [read, readPeek, readFinish] at h
    split at h
    · cases h <;> exact ⟨c, .refl c, rfl⟩
    · cases h <;> exact ⟨c, .refl c, rfl⟩
  | ended | position | location | step | restart => cases h

end Leaf

theorem Stretch.located_of_read {β : Type} {s : Stretch β} {c : TextCursor} {e : ParseError}
    (h : s.read c = .failure e) : e.location? = some (Cursor.location c) := by
  cases s with
  | tag s =>
    simp only [read, readTag] at h
    split at h
    · cases h
    · split at h <;> cases h <;> rfl
  | pattern p =>
    simp only [read, readPattern] at h
    split at h
    · cases h
    · split at h <;> cases h <;> rfl

theorem TextLeaf.located_of_read {β : Type} {l : TextLeaf β} {c : TextCursor} {e : ParseError}
    (h : l.read c = .failure e) :
    ∃ d, Cursor.Reaches c d ∧ e.location? = some (Cursor.location d) := by
  cases l with
  | inl l => exact Leaf.located_of_read h
  | inr s => exact ⟨c, .refl c, Stretch.located_of_read h⟩

/-- The leaf is one of those that `P` allows, or a program's own. Of these the program promises
that they hand on, and locate their errors at, cursors that `R` relates to the one they are
given. -/
def OpenLeaf.Keeps {L : Type → Type} {κ α : Type} [Cursor κ α] (P : {β : Type} → L β → Prop)
    (good : κ → Prop) (R : κ → κ → Prop) {β : Type} : OpenLeaf L κ β → Prop
  | ready l => P l
  | custom f => ∀ c, good c → (f c).StaysOn R c

section
variable {L : Type → Type} {ρ V κ α β : Type} [Cursor κ α]
  {read : {β : Type} → L β → κ → Outcome κ ParseError β} {P : {β : Type} → L β → Prop}
  {good : κ → Prop} {R : κ → κ → Prop}
  (hreaches : ∀ {c d}, good c → Cursor.Reaches c d → R c d)
  (hsuccess : ∀ {β : Type} {l : L β} {c : κ} {v : β} {d : κ}, P l → good c →
    read l c = .success v d → R c d)
  (hfailure : ∀ {β : Type} {l : L β} {c : κ} {e : ParseError}, read l c = .failure e →
    ∃ d, Cursor.Reaches c d ∧ e.location? = some (Cursor.location d))
include hreaches hsuccess hfailure

theorem OpenLeaf.Keeps.confined {l : OpenLeaf L κ β} (hl : l.Keeps P good R) :
    Confined (OpenLeaf.read read) good R l := by
  intro c hc
  cases l with
  | custom f => exact hl c hc
  | ready l =>
    change (read l c).StaysOn R c
    cases h : read l c with
    | success v d => exact hsuccess hl hc h
    | failure e =>
      obtain ⟨d, hd, hlocation⟩ := hfailure h
      exact Or.inr ⟨d, hreaches hc hd, hlocation⟩

theorem Rules.exists_place_of_failure {rules : Rules (OpenLeaf L κ) ρ V}
    {g : Grammar (OpenLeaf L κ) ρ V β} {budget : Nat} {c : κ} {e : ParseError}
    (w : Cursor.Route good R) (hrules : rules.AllLeaves (OpenLeaf.Keeps P good R))
    (hg : g.AllLeaves (OpenLeaf.Keeps P good R)) (hc : good c)
    (h : (rules.run (OpenLeaf.read read) budget g c).outcome? = some (.failure e))
    (he : ∀ m, e ≠ .misuse m) :
    ∃ d, R c d ∧ e.location? = some (Cursor.location d) := by
  have hleaf : ∀ {β : Type} (l : OpenLeaf L κ β), l.Keeps P good R →
      Confined (OpenLeaf.read read) good R l := fun _ hl =>
    hl.confined hreaches hsuccess hfailure
  rcases run_staysOn w (hrules.imp hleaf) (hg.imp hleaf) budget c hc _ h with ⟨m, hm⟩ | hplace
  · exact absurd hm (he m)
  · exact hplace

end

/-! ## Places in the source -/

/-- A cursor of the same source, no earlier than another, is a suffix of it. -/
theorem Cursor.isSuffixOf_of_position_le {κ α : Type} [Cursor κ α] {c d : κ}
    (hs : source d = source c) (hle : position c ≤ position d) : isSuffixOf d c = true := by
  simp [isSuffixOf, hs, hle]

/-- The location counts its position, its line and its offset over `before`, which takes up
`size`. -/
structure Location.Counts {α : Type} [BEq α] [Atom α] (size : List α → Nat) (before : List α)
    (l : Location) : Prop where
  position_eq : l.position = size before
  line_eq : l.line = 1 + before.countP Atom.isNewline
  offset_eq : l.offset = size (currentLine Atom.isNewline before)

/-- The error has the location of `place`, counted over all that stands before it in the source. -/
structure ParseError.At {κ α : Type} [BEq α] [Atom α] [Cursor κ α] (size : List α → Nat)
    (place : κ) (e : ParseError) : Prop where
  location_eq : e.location? = some (Cursor.location place)
  counts : ∃ before, (Cursor.source place).elements = before ++ Cursor.remaining place ∧
    (Cursor.location place).Counts size before

namespace TextCursor
variable {c : TextCursor}

theorem follows_route : Cursor.Route OnBoundary fun c d => d.Follows c where
  refl c hc := follows_of_reaches hc (.refl c)
  trans hcd hde :=
    have hs := hde.source_eq.trans hcd.source_eq
    have hle := Nat.le_trans hcd.start_le hde.start_le
    { source_eq := hs
      start_le := hle
      le_end := hde.le_end
      isSuffixOf := Cursor.isSuffixOf_of_position_le hs hle
      onBoundary := hde.onBoundary }
  mem h := h.onBoundary

/-- `d` is a boundary of the text that `c` walks. -/
def SharesText (c d : TextCursor) : Prop :=
  d.source = c.source ∧ d.OnBoundary

theorem sharesText_route : Cursor.Route OnBoundary SharesText where
  refl _ hc := ⟨rfl, hc⟩
  trans hcd hde := ⟨hde.1.trans hcd.1, hde.2⟩
  mem h := h.2

theorem OnBoundary.at_of_location_eq (hc : c.OnBoundary) {e : ParseError}
    (h : e.location? = some (Cursor.location c)) : e.At Utf8.byteSize c := by
  obtain ⟨before, he, ho⟩ := hc
  exact ⟨h, before, he, ho ▸ position_location c, line_location he ho, offset_location he ho⟩

end TextCursor

namespace ElementCursor
variable {α : Type} [BEq α] [Atom α] {c : ElementCursor α}

theorem follows_route :
    Cursor.Route InBounds fun c d : ElementCursor α => d.Follows c where
  refl c hc := follows_of_reaches hc (.refl c)
  trans hcd hde :=
    have hs := hde.source_eq.trans hcd.source_eq
    have hle := Nat.le_trans hcd.start_le hde.start_le
    { source_eq := hs
      start_le := hle
      le_end := hde.le_end
      isSuffixOf := Cursor.isSuffixOf_of_position_le hs hle
      canonical := fun hc => hde.canonical (hcd.canonical hc) }
  mem h := h.le_end

/-- `d` is a place in the sequence that `c` walks. -/
def SharesSequence (c d : ElementCursor α) : Prop :=
  d.source = c.source ∧ d.InBounds

omit [BEq α] [Atom α] in
theorem sharesSequence_route : Cursor.Route InBounds (SharesSequence (α := α)) where
  refl _ hc := ⟨rfl, hc⟩
  trans hcd hde := ⟨hde.1.trans hcd.1, hde.2⟩
  mem h := h.2

theorem InBounds.at_of_location_eq (hc : c.InBounds) {e : ParseError}
    (h : e.location? = some (Cursor.location c)) : e.At List.length c := by
  refine ⟨h, c.source.elements.take c.position, (List.take_append_drop _ _).symm, ?_⟩
  exact ⟨(position_location c).trans (List.length_take_of_le hc).symm, line_location c,
    offset_location c hc⟩

end ElementCursor

/-- An error from the input is located in the text or the sequence that was being parsed, at a
boundary no earlier than the start of the parse, and its line and offset count everything before
that place, from the start of the source. The leaves are those of the library, apart from the return
to the start, and any that a program brings, if these hand on the cursor they are given or a suffix
of it and locate their errors at one. -/
theorem errors_point_into_source :
    (∀ {ρ V β : Type} (rules : Rules (OpenLeaf TextLeaf TextCursor) ρ V) (budget : Nat)
      (g : Grammar (OpenLeaf TextLeaf TextCursor) ρ V β) (start : TextCursor) (e : ParseError),
      rules.AllLeaves (OpenLeaf.Keeps (TextLeaf.goesBack · = false) TextCursor.OnBoundary
        fun c d => d.Follows c) →
      g.AllLeaves (OpenLeaf.Keeps (TextLeaf.goesBack · = false) TextCursor.OnBoundary
        fun c d => d.Follows c) →
      start.OnBoundary →
      (rules.run (OpenLeaf.read TextLeaf.read) budget g start).outcome? = some (.failure e) →
      (∀ m, e ≠ .misuse m) →
      ∃ place : TextCursor, place.Follows start ∧ e.At Utf8.byteSize place) ∧
    ∀ {α ρ V β : Type} [BEq α] [Atom α] (rules : Rules (OpenLeaf (Leaf α) (ElementCursor α)) ρ V)
      (budget : Nat) (g : Grammar (OpenLeaf (Leaf α) (ElementCursor α)) ρ V β)
      (start : ElementCursor α) (e : ParseError),
      rules.AllLeaves (OpenLeaf.Keeps (Leaf.goesBack · = false) ElementCursor.InBounds
        fun c d => d.Follows c) →
      g.AllLeaves (OpenLeaf.Keeps (Leaf.goesBack · = false) ElementCursor.InBounds
        fun c d => d.Follows c) →
      start.InBounds →
      (rules.run (OpenLeaf.read Leaf.read) budget g start).outcome? = some (.failure e) →
      (∀ m, e ≠ .misuse m) →
      ∃ place : ElementCursor α, place.Follows start ∧ e.At List.length place := by
  constructor
  · intro ρ V β rules budget g start e hrules hg hstart h he
    have hsuccess : ∀ {β : Type} {l : TextLeaf β} {c : TextCursor} {v : β} {d : TextCursor},
        l.goesBack = false → c.OnBoundary → l.read c = .success v d → d.Follows c :=
      fun hl hc h => TextCursor.follows_of_reaches hc (TextLeaf.reaches_of_read hc hl h)
    obtain ⟨place, hplace, hlocation⟩ := Rules.exists_place_of_failure
      TextCursor.follows_of_reaches hsuccess TextLeaf.located_of_read TextCursor.follows_route
      hrules hg hstart h he
    exact ⟨place, hplace, hplace.onBoundary.at_of_location_eq hlocation⟩
  · intro α ρ V β _ _ rules budget g start e hrules hg hstart h he
    have hsuccess : ∀ {β : Type} {l : Leaf α β} {c : ElementCursor α} {v : β}
        {d : ElementCursor α}, l.goesBack = false → c.InBounds → l.read c = .success v d →
        d.Follows c :=
      fun hl hc h => ElementCursor.follows_of_reaches hc (Leaf.reaches_of_read hl h)
    obtain ⟨place, hplace, hlocation⟩ := Rules.exists_place_of_failure
      ElementCursor.follows_of_reaches hsuccess Leaf.located_of_read ElementCursor.follows_route
      hrules hg hstart h he
    have hbounds : place.InBounds := hplace.le_end
    exact ⟨place, hplace, hbounds.at_of_location_eq hlocation⟩

theorem errors_point_into_source_second_line :
    (let rules : Rules (OpenLeaf TextLeaf TextCursor) Unit Char := fun _ =>
        .ok ((Grammar.leaf (.ready (.inl (.exactly 'b')))).andThen (.leaf (.ready (.inl .any))))
      let start : TextCursor := ⟨⟨0, ['a', '\n', 'b']⟩, 2⟩
      (rules.run (OpenLeaf.read TextLeaf.read) 1 (.call ()) start).outcome? =
          some (.failure (.endOfInput ⟨3, 2, 1⟩)) ∧
        ∃ place : TextCursor, place.Follows start ∧
          (ParseError.endOfInput ⟨3, 2, 1⟩).At Utf8.byteSize place) ∧
    let rules : Rules (OpenLeaf (Leaf UInt8) (ElementCursor UInt8)) Empty Unit := fun r => r.elim
    let g : Grammar (OpenLeaf (Leaf UInt8) (ElementCursor UInt8)) Empty Unit Unit :=
      .leaf (.custom fun c => .failure (.rejected "late" (Cursor.location (Cursor.next c))))
    let start : ElementCursor UInt8 := .within ⟨0, [10, 7, 7]⟩ 1
    (rules.run (OpenLeaf.read Leaf.read) 0 g start).outcome? =
        some (.failure (.rejected "late" ⟨2, 2, 1⟩)) ∧
      ∃ place : ElementCursor UInt8, place.Follows start ∧
        (ParseError.rejected "late" ⟨2, 2, 1⟩).At List.length place := by
  constructor
  · intro rules start
    have hrules : rules.AllLeaves (OpenLeaf.Keeps (TextLeaf.goesBack · = false)
        TextCursor.OnBoundary fun c d => d.Follows c) := by
      intro _ g hg
      obtain rfl := Except.ok.inj hg
      exact ⟨rfl, fun _ => rfl⟩
    have hrun : (rules.run (OpenLeaf.read TextLeaf.read) 1 (.call ()) start).outcome? =
        some (.failure (.endOfInput ⟨3, 2, 1⟩)) := rfl
    exact ⟨hrun, errors_point_into_source.1 rules 1 (.call ()) start _ hrules trivial
      ⟨['a', '\n'], rfl, rfl⟩ hrun (by simp)⟩
  · intro rules g start
    have hg : g.AllLeaves (OpenLeaf.Keeps (Leaf.goesBack · = false) ElementCursor.InBounds
        fun c d => d.Follows c) :=
      fun c hc => Or.inr ⟨_, ElementCursor.follows_of_reaches hc (Cursor.reaches_next c), rfl⟩
    have hrun : (rules.run (OpenLeaf.read Leaf.read) 0 g start).outcome? =
        some (.failure (.rejected "late" ⟨2, 2, 1⟩)) := rfl
    exact ⟨hrun, errors_point_into_source.2 rules 0 g start _ (fun r => r.elim) hg
      (show 1 ≤ 3 by decide) hrun (by simp)⟩

/-! ## Leaves that go back -/

theorem TextLeaf.sharesText_of_read {β : Type} {l : TextLeaf β} {c d : TextCursor} {v : β}
    (hc : c.OnBoundary) (h : l.read c = .success v d) : c.SharesText d := by
  cases hl : goesBack l with
  | false =>
    have hfollows := TextCursor.follows_of_reaches hc (reaches_of_read hc hl h)
    exact ⟨hfollows.source_eq, hfollows.onBoundary⟩
  | true =>
    match l, hl with
    | .inl .restart, _ =>
      obtain ⟨-, rfl⟩ := Outcome.success.inj h
      exact ⟨rfl, TextCursor.onBoundary_start c.source⟩

theorem Leaf.sharesSequence_of_read {α β : Type} [BEq α] [Atom α] {l : Leaf α β}
    {c d : ElementCursor α} {v : β} (hc : c.InBounds) (h : l.read c = .success v d) :
    c.SharesSequence d := by
  cases hl : goesBack l with
  | false =>
    have hfollows := ElementCursor.follows_of_reaches hc (reaches_of_read hl h)
    exact ⟨hfollows.source_eq, hfollows.le_end⟩
  | true =>
    match l, hl with
    | .restart, _ =>
      obtain ⟨-, rfl⟩ := Outcome.success.inj h
      exact ⟨ElementCursor.source_start c.source, (ElementCursor.canonical_start _).inBounds⟩

/-- Leaves that go back to the start of the source, or to any place in it, take errors back with
them and no further. -/
theorem errors_stay_in_source :
    (∀ {ρ V β : Type} (rules : Rules (OpenLeaf TextLeaf TextCursor) ρ V) (budget : Nat)
      (g : Grammar (OpenLeaf TextLeaf TextCursor) ρ V β) (start : TextCursor) (e : ParseError),
      rules.AllLeaves (OpenLeaf.Keeps (fun _ => True) TextCursor.OnBoundary
        TextCursor.SharesText) →
      g.AllLeaves (OpenLeaf.Keeps (fun _ => True) TextCursor.OnBoundary TextCursor.SharesText) →
      start.OnBoundary →
      (rules.run (OpenLeaf.read TextLeaf.read) budget g start).outcome? = some (.failure e) →
      (∀ m, e ≠ .misuse m) →
      ∃ place : TextCursor, start.SharesText place ∧ e.At Utf8.byteSize place) ∧
    ∀ {α ρ V β : Type} [BEq α] [Atom α] (rules : Rules (OpenLeaf (Leaf α) (ElementCursor α)) ρ V)
      (budget : Nat) (g : Grammar (OpenLeaf (Leaf α) (ElementCursor α)) ρ V β)
      (start : ElementCursor α) (e : ParseError),
      rules.AllLeaves (OpenLeaf.Keeps (fun _ => True) ElementCursor.InBounds
        ElementCursor.SharesSequence) →
      g.AllLeaves (OpenLeaf.Keeps (fun _ => True) ElementCursor.InBounds
        ElementCursor.SharesSequence) →
      start.InBounds →
      (rules.run (OpenLeaf.read Leaf.read) budget g start).outcome? = some (.failure e) →
      (∀ m, e ≠ .misuse m) →
      ∃ place : ElementCursor α, start.SharesSequence place ∧ e.At List.length place := by
  constructor
  · intro ρ V β rules budget g start e hrules hg hstart h he
    have hreaches : ∀ {c d : TextCursor}, c.OnBoundary → Cursor.Reaches c d → c.SharesText d :=
      fun hc h => ⟨TextCursor.source_eq_of_reaches h, h.preserves TextCursor.walkable.next_mem hc⟩
    obtain ⟨place, hplace, hlocation⟩ := Rules.exists_place_of_failure hreaches
      (fun _ => TextLeaf.sharesText_of_read) TextLeaf.located_of_read TextCursor.sharesText_route
      hrules hg hstart h he
    exact ⟨place, hplace, hplace.2.at_of_location_eq hlocation⟩
  · intro α ρ V β _ _ rules budget g start e hrules hg hstart h he
    have hreaches : ∀ {c d : ElementCursor α}, c.InBounds → Cursor.Reaches c d →
        c.SharesSequence d :=
      fun hc h =>
        ⟨ElementCursor.source_eq_of_reaches h, (ElementCursor.position_le_of_reaches hc h).1⟩
    obtain ⟨place, hplace, hlocation⟩ := Rules.exists_place_of_failure hreaches
      (fun _ => Leaf.sharesSequence_of_read) Leaf.located_of_read
      ElementCursor.sharesSequence_route hrules hg hstart h he
    exact ⟨place, hplace, hplace.2.at_of_location_eq hlocation⟩

end Descent
