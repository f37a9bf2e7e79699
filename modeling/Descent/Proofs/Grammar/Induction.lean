import Descent.Grammar

/-!
# Induction over systems of grammars

What a system of grammars does is put together from its leaves by the ways to combine parsers. A
property of parsers that the leaves have and that each of those ways keeps therefore holds of
every grammar of the system, however its rules call each other and whatever the budget is.
-/
namespace Descent

variable {L : Type → Type} {ρ V κ α : Type}

/-- Every leaf in the grammar has the property, those in the continuations included. -/
def Grammar.AllLeaves (P : {β : Type} → L β → Prop) : {β : Type} → Grammar L ρ V β → Prop
  | _, leaf l => P l
  | _, succeed _ => True
  | _, reject _ => True
  | _, orElse p q => p.AllLeaves P ∧ q.AllLeaves P
  | _, bind p k => p.AllLeaves P ∧ ∀ v, (k v).AllLeaves P
  | _, many p => p.AllLeaves P
  | _, sepBy p s => p.AllLeaves P ∧ s.AllLeaves P
  | _, defer _ p => p.AllLeaves P
  | _, traced _ p => p.AllLeaves P
  | _, call _ => True

/-- Every leaf in the grammars of the system has the property. -/
def Rules.AllLeaves (P : {β : Type} → L β → Prop) (rules : Rules L ρ V) : Prop :=
  ∀ r g, rules r = .ok g → g.AllLeaves P

theorem Grammar.AllLeaves.imp {P Q : {β : Type} → L β → Prop}
    (hPQ : ∀ {β : Type} (l : L β), P l → Q l) {β : Type} {g : Grammar L ρ V β}
    (h : g.AllLeaves P) : g.AllLeaves Q := by
  induction g with
  | leaf l => exact hPQ l h
  | succeed v => trivial
  | reject message => trivial
  | orElse p q ihp ihq => exact ⟨ihp h.1, ihq h.2⟩
  | bind p k ihp ihk => exact ⟨ihp h.1, fun v => ihk v (h.2 v)⟩
  | many p ih => exact ih h
  | sepBy p s ihp ihs => exact ⟨ihp h.1, ihs h.2⟩
  | defer label p ih => exact ih h
  | traced name p ih => exact ih h
  | call r => trivial

theorem Rules.AllLeaves.imp {P Q : {β : Type} → L β → Prop}
    (hPQ : ∀ {β : Type} (l : L β), P l → Q l) {rules : Rules L ρ V} (h : rules.AllLeaves P) :
    rules.AllLeaves Q :=
  fun r g hr => (h r g hr).imp hPQ

variable [Cursor κ α]

/-- A property of parsers that those without leaves have and that the ways to put parsers
together keep. -/
structure Parser.Compositional (Q : {β : Type} → Parser κ β → Prop) : Prop where
  succeed : ∀ {β : Type} (v : β), Q (Parser.succeed v)
  reject : ∀ {β : Type} (message : String), Q (Parser.reject message : Parser κ β)
  diverge : ∀ {β : Type}, Q (Parser.diverge : Parser κ β)
  orElse : ∀ {β : Type} {p q : Parser κ β}, Q p → Q q → Q (p.orElse q)
  bind : ∀ {β γ : Type} {p : Parser κ β} {k : β → Parser κ γ},
    Q p → (∀ v, Q (k v)) → Q (p.bind k)
  many : ∀ {β : Type} {p : Parser κ β} (budget : Nat), Q p → Q (p.many budget)
  sepBy : ∀ {β γ : Type} {p : Parser κ β} {s : Parser κ γ} (budget : Nat),
    Q p → Q s → Q (p.sepBy s budget)
  defer : ∀ {β : Type} {p : Parser κ β} (label : Option String), Q p → Q (p.defer label)
  traced : ∀ {β : Type} {p : Parser κ β} (name : String), Q p → Q (p.traced name)

namespace Parser.Compositional
variable {Q : {β : Type} → Parser κ β → Prop} {P : {β : Type} → L β → Prop}
  {read : {β : Type} → L β → κ → Outcome κ ParseError β} {rules : Rules L ρ V}

theorem parser (hQ : Compositional Q)
    (hleaf : ∀ {β : Type} (l : L β), P l → Q fun c => Run.ofOutcome (read l c))
    {callee : ρ → Parser κ V} (hcallee : ∀ r, Q (callee r)) (budget : Nat) {β : Type}
    (g : Grammar L ρ V β) (hg : g.AllLeaves P) : Q (g.parser read callee budget) := by
  induction g with
  | leaf l => exact hleaf l hg
  | succeed v => exact hQ.succeed v
  | reject message => exact hQ.reject message
  | orElse p q ihp ihq => exact hQ.orElse (ihp hg.1) (ihq hg.2)
  | bind p k ihp ihk => exact hQ.bind (ihp hg.1) fun v => ihk v (hg.2 v)
  | many p ih => exact hQ.many budget (ih hg)
  | sepBy p s ihp ihs => exact hQ.sepBy budget (ihp hg.1) (ihs hg.2)
  | defer label p ih => exact hQ.defer label (ih hg)
  | traced name p ih => exact hQ.traced name (ih hg)
  | call r => exact hcallee r

theorem rule (hQ : Compositional Q)
    (hleaf : ∀ {β : Type} (l : L β), P l → Q fun c => Run.ofOutcome (read l c))
    (hmisused : ∀ r m, rules r = .error m → Q (Parser.misused m : Parser κ V))
    (hrules : rules.AllLeaves P) (budget : Nat) (r : ρ) : Q (rules.parser read budget r) := by
  induction budget generalizing r with
  | zero => exact hQ.diverge
  | succ budget ih =>
    rw [Rules.parser]
    split
    · next g hg => exact hQ.parser hleaf ih budget g (hrules r g hg)
    · next m hm => exact hmisused r m hm

/-- Every grammar of the system has the property, if the leaves and the misuses have it. -/
theorem run (hQ : Compositional Q)
    (hleaf : ∀ {β : Type} (l : L β), P l → Q fun c => Run.ofOutcome (read l c))
    (hmisused : ∀ r m, rules r = .error m → Q (Parser.misused m : Parser κ V))
    (hrules : rules.AllLeaves P) (budget : Nat) {β : Type} (g : Grammar L ρ V β)
    (hg : g.AllLeaves P) : Q (rules.run read budget g) :=
  hQ.parser hleaf (hQ.rule hleaf hmisused hrules budget) budget g hg

end Parser.Compositional
end Descent
