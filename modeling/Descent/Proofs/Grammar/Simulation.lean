import Descent.Proofs.Grammar.Induction

/-!
# Runs side by side

One grammar can be run twice, on cursors of two kinds or on two sources. If the leaves end alike
wherever the two cursors correspond, and the repetitions see the same rounds leave off where they
began, then the whole grammar ends alike: with one value at places that correspond, or with errors
that do, or not at all within the budget. What corresponding means is left open.
-/
namespace Descent

variable {κ κ' ε ε' α α' β γ : Type}

/-- One value and remainders related by `R`, or errors related by `E`. -/
inductive Outcome.Alike (R : κ → κ' → Prop) (E : ε → ε' → Prop) :
    Outcome κ ε β → Outcome κ' ε' β → Prop
  | success (v : β) {c : κ} {d : κ'} : R c d → Alike R E (.success v c) (.success v d)
  | failure {e : ε} {e' : ε'} : E e e' → Alike R E (.failure e) (.failure e')

section
variable {R R' : κ → κ' → Prop} {E E' : ε → ε' → Prop}

theorem Outcome.Alike.imp {o : Outcome κ ε β} {o' : Outcome κ' ε' β} (h : o.Alike R E o')
    (hR : ∀ c d, R c d → R' c d) (hE : ∀ e e', E e e' → E' e e') : o.Alike R' E' o' := by
  cases h with
  | success v hcd => exact .success v (hR _ _ hcd)
  | failure he => exact .failure (hE _ _ he)

theorem Outcome.Alike.symm {S : κ → κ → Prop} {F : ε → ε → Prop} {o o' : Outcome κ ε β}
    (h : o.Alike S F o') (hS : ∀ c d, S c d → S d c) : o'.Alike S (fun e e' => F e' e) o := by
  cases h with
  | success v hcd => exact .success v (hS _ _ hcd)
  | failure he => exact .failure he

theorem Outcome.Alike.map {o : Outcome κ ε β} {o' : Outcome κ' ε' β} (h : o.Alike R E o')
    (f : β → γ) : (o.map fun v _ => f v).Alike R E (o'.map fun v _ => f v) := by
  cases h with
  | success v hcd => exact .success (f v) hcd
  | failure he => exact .failure he

theorem Outcome.Alike.flatMap {o : Outcome κ ε β} {o' : Outcome κ' ε' β} (h : o.Alike R E o')
    {f : β → κ → Outcome κ ε γ} {g : β → κ' → Outcome κ' ε' γ}
    (hfg : ∀ v c d, R c d → (f v c).Alike R E (g v d)) :
    (o.flatMap f).Alike R E (o'.flatMap g) := by
  cases h with
  | success v hcd => exact hfg v _ _ hcd
  | failure he => exact .failure he

end

namespace Run
variable {R R' : κ → κ' → Prop} {E E' : ParseError → ParseError → Prop}

/-- Both runs have outcomes, and these are alike, or both have spent their budget. The events are
left aside. -/
def Alike (R : κ → κ' → Prop) (E : ParseError → ParseError → Prop) (r : Run κ β) (s : Run κ' β) :
    Prop :=
  Option.Rel (Outcome.Alike R E) r.outcome? s.outcome?

theorem alike_success (v : β) {c : κ} {d : κ'} (h : R c d) :
    (success v c).Alike R E (success v d) :=
  .some (.success v h)

theorem alike_failure {e e' : ParseError} (h : E e e') :
    (failure e : Run κ β).Alike R E (failure e' : Run κ' β) :=
  .some (.failure h)

theorem alike_raise {e e' : ParseError} (h : E e e') :
    (raise e : Run κ β).Alike R E (raise e' : Run κ' β) :=
  .some (.failure h)

theorem alike_exhausted : (exhausted : Run κ β).Alike R E (exhausted : Run κ' β) :=
  .none

theorem alike_ofOutcome {o : Outcome κ ParseError β} {o' : Outcome κ' ParseError β}
    (h : o.Alike R E o') : (ofOutcome o).Alike R E (ofOutcome o') := by
  rw [Alike, outcome?_ofOutcome, outcome?_ofOutcome]
  exact .some h

namespace Alike
variable {r : Run κ β} {s : Run κ' β}

theorem ends (h : r.Alike R E s) :
    (r.outcome? = none ∧ s.outcome? = none) ∨
      ∃ o o', r.outcome? = some o ∧ s.outcome? = some o' ∧ o.Alike R E o' := by
  unfold Alike at h
  generalize hr : r.outcome? = x, hs : s.outcome? = y at h
  cases h with
  | none => exact Or.inl ⟨rfl, rfl⟩
  | some ho => exact Or.inr ⟨_, _, rfl, rfl, ho⟩

theorem imp (h : r.Alike R E s) (hR : ∀ c d, R c d → R' c d) (hE : ∀ e e', E e e' → E' e e') :
    r.Alike R' E' s := by
  rcases h.ends with ⟨hr, hs⟩ | ⟨o, o', hr, hs, ho⟩
  · rw [Alike, hr, hs]
    exact .none
  · rw [Alike, hr, hs]
    exact .some (ho.imp hR hE)

theorem after (h : r.Alike R E s) (log log' : List Event) :
    (r.after log).Alike R E (s.after log') := h

/-- Runs that are alike go on alike, if they go on alike from corresponding places and after
corresponding errors. -/
theorem continueWith (h : r.Alike R E s) {f : β → κ → Run κ γ} {f' : β → κ' → Run κ' γ}
    {g g' : ParseError → _} (hf : ∀ v c d, R c d → (f v c).Alike R E (f' v d))
    (hg : ∀ e e', E e e' → (g e : Run κ γ).Alike R E (g' e' : Run κ' γ)) :
    (r.continueWith f g).Alike R E (s.continueWith f' g') := by
  rcases h.ends with ⟨hr, hs⟩ | ⟨o, o', hr, hs, ho⟩
  · rw [continueWith_of_none hr, continueWith_of_none hs]
    exact .none
  · cases ho with
    | success v hcd =>
      rw [continueWith_of_success hr, continueWith_of_success hs]
      exact (hf v _ _ hcd).after _ _
    | failure he =>
      rw [continueWith_of_failure hr, continueWith_of_failure hs]
      exact (hg _ _ he).after _ _

theorem map (h : r.Alike R E s) (f : β → γ) : (r.map f).Alike R E (s.map f) :=
  h.continueWith (fun v _ _ hcd => alike_success (f v) hcd) fun _ _ he => alike_failure he

end Alike
end Run

/-- What the ways to put parsers together ask of the cursors and errors that correspond. -/
structure Parser.Simulation [Cursor κ α] [Cursor κ' α'] (R : κ → κ' → Prop)
    (E : ParseError → ParseError → Prop) : Prop where
  beq_eq : ∀ {c d c' d'}, R c d → R c' d' → (c == c') = (d == d')
  rejected : ∀ {c d} (message : String), R c d →
    E (.rejected message (Cursor.location c)) (.rejected message (Cursor.location d))
  misuse : ∀ m, E (.misuse m) (.misuse m)

namespace Parser
variable [Cursor κ α] [Cursor κ' α'] {R R' : κ → κ' → Prop}
  {E E' : ParseError → ParseError → Prop}

/-- From corresponding cursors the two parsers run alike. -/
def Alike (R : κ → κ' → Prop) (E : ParseError → ParseError → Prop) (p : Parser κ β)
    (p' : Parser κ' β) : Prop :=
  ∀ c d, R c d → (p c).Alike R E (p' d)

namespace Alike
variable {p q : Parser κ β} {p' q' : Parser κ' β}

theorem orElse (hp : p.Alike R E p') (hq : q.Alike R E q') :
    (p.orElse q).Alike R E (p'.orElse q') := by
  intro c d hcd
  exact (hp c d hcd).continueWith (fun v _ _ => Run.alike_success v) fun _ _ _ => hq c d hcd

theorem bind {k : β → Parser κ γ} {k' : β → Parser κ' γ} (hp : p.Alike R E p')
    (hk : ∀ v, (k v).Alike R E (k' v)) : (p.bind k).Alike R E (p'.bind k') := by
  intro c d hcd
  exact (hp c d hcd).continueWith hk fun _ _ he => Run.alike_failure he

/-- Whether a round left off where it began is the same question on both sides. -/
theorem many (h : Simulation R E) (hp : p.Alike R E p') (budget : Nat) :
    (p.many budget).Alike R E (p'.many budget) := by
  induction budget with
  | zero => exact fun _ _ _ => Run.alike_exhausted
  | succ budget ih =>
    intro c d hcd
    rw [Parser.many, Parser.many]
    refine (hp c d hcd).continueWith ?_ fun _ _ _ => Run.alike_success [] hcd
    intro v rest rest' hrest
    rw [h.beq_eq hrest hcd]
    split
    · exact Run.alike_success [v] hcd
    · exact (ih rest rest' hrest).map _

theorem separated {s : Parser κ γ} {s' : Parser κ' γ} (h : Simulation R E)
    (hp : p.Alike R E p') (hs : s.Alike R E s') (budget : Nat) {confirmed : κ} {confirmed' : κ'}
    (hconfirmed : R confirmed confirmed') :
    (p.separated s budget confirmed).Alike R E (p'.separated s' budget confirmed') := by
  induction budget generalizing confirmed confirmed' with
  | zero => exact fun _ _ _ => Run.alike_exhausted
  | succ budget ih =>
    intro c d hcd
    rw [Parser.separated, Parser.separated]
    refine (hp c d hcd).continueWith ?_ fun _ _ _ => Run.alike_success [] hconfirmed
    intro v item item' hitem
    refine (hs item item' hitem).continueWith ?_ fun _ _ _ => Run.alike_success [v] hitem
    intro _ following following' hfollowing
    rw [h.beq_eq hfollowing hcd]
    split
    · exact Run.alike_success [v] hitem
    · exact (ih hitem following following' hfollowing).map _

theorem traced (hp : p.Alike R E p') (name : String) :
    (p.traced name).Alike R E (p'.traced name) := by
  intro c d hcd
  exact ((hp c d hcd).continueWith (fun v _ _ hrest => (Run.alike_success v hrest).after _ _)
    fun _ _ he => (Run.alike_failure he).after _ _).after _ _

end Alike
end Parser

variable {L : Type → Type} {ρ V : Type} [Cursor κ α] [Cursor κ' α'] {R : κ → κ' → Prop}
  {E : ParseError → ParseError → Prop} {P : {β : Type} → L β → Prop}
  {read : {β : Type} → L β → κ → Outcome κ ParseError β}
  {read' : {β : Type} → L β → κ' → Outcome κ' ParseError β}

theorem Grammar.parser_alike (h : Parser.Simulation R E)
    (hleaf : ∀ {β : Type} (l : L β), P l → ∀ c d, R c d → (read l c).Alike R E (read' l d))
    {callee : ρ → Parser κ V} {callee' : ρ → Parser κ' V}
    (hcallee : ∀ r, (callee r).Alike R E (callee' r)) (budget : Nat) (g : Grammar L ρ V β)
    (hg : g.AllLeaves P) :
    (g.parser read callee budget).Alike R E (g.parser read' callee' budget) := by
  induction g with
  | leaf l => exact fun c d hcd => Run.alike_ofOutcome (hleaf l hg c d hcd)
  | succeed v => exact fun _ _ hcd => Run.alike_success v hcd
  | reject message => exact fun _ _ hcd => Run.alike_raise (h.rejected message hcd)
  | orElse p q ihp ihq => exact (ihp hg.1).orElse (ihq hg.2)
  | bind p k ihp ihk => exact (ihp hg.1).bind fun v => ihk v (hg.2 v)
  | many p ih => exact (ih hg).many h budget
  | sepBy p s ihp ihs => exact fun c d hcd => (ihp hg.1).separated h (ihs hg.2) budget hcd c d hcd
  | defer label p ih => exact fun c d hcd => (ih hg c d hcd).after _ _
  | traced name p ih => exact (ih hg).traced name
  | call r => exact hcallee r

namespace Rules
variable {rules : Rules L ρ V}

theorem parser_alike (h : Parser.Simulation R E)
    (hleaf : ∀ {β : Type} (l : L β), P l → ∀ c d, R c d → (read l c).Alike R E (read' l d))
    (hrules : rules.AllLeaves P) (budget : Nat) (r : ρ) :
    (rules.parser read budget r).Alike R E (rules.parser read' budget r) := by
  induction budget generalizing r with
  | zero => exact fun _ _ _ => Run.alike_exhausted
  | succ budget ih =>
    rw [parser, parser]
    split
    · next g hg => exact g.parser_alike h hleaf ih budget (hrules r g hg)
    · next m hm => exact fun _ _ _ => Run.alike_raise (h.misuse m)

/-- A system of grammars whose leaves end alike runs alike from corresponding cursors. -/
theorem run_alike (h : Parser.Simulation R E)
    (hleaf : ∀ {β : Type} (l : L β), P l → ∀ c d, R c d → (read l c).Alike R E (read' l d))
    (hrules : rules.AllLeaves P) (budget : Nat) (g : Grammar L ρ V β) (hg : g.AllLeaves P) :
    (rules.run read budget g).Alike R E (rules.run read' budget g) :=
  g.parser_alike h hleaf (rules.parser_alike h hleaf hrules budget) budget hg

end Rules

/-- Errors that say the same, at locations related by `P`. -/
inductive ParseError.Alike (P : Location → Location → Prop) : ParseError → ParseError → Prop
  | endOfInput {l l' : Location} : P l l' → Alike P (.endOfInput l) (.endOfInput l')
  | unexpected (expected found : String) {l l' : Location} :
    P l l' → Alike P (.unexpected expected found l) (.unexpected expected found l')
  | noMatch (pattern : String) {l l' : Location} :
    P l l' → Alike P (.noMatch pattern l) (.noMatch pattern l')
  | rejected (message : String) {l l' : Location} :
    P l l' → Alike P (.rejected message l) (.rejected message l')
  | misuse (m : Misuse) : Alike P (.misuse m) (.misuse m)

theorem ParseError.Alike.imp {P Q : Location → Location → Prop} {e e' : ParseError}
    (h : e.Alike P e') (hPQ : ∀ l l', P l l' → Q l l') : e.Alike Q e' := by
  cases h with
  | endOfInput hl => exact .endOfInput (hPQ _ _ hl)
  | unexpected expected found hl => exact .unexpected expected found (hPQ _ _ hl)
  | noMatch pattern hl => exact .noMatch pattern (hPQ _ _ hl)
  | rejected message hl => exact .rejected message (hPQ _ _ hl)
  | misuse m => exact .misuse m

end Descent
