import Descent.Proofs.Grammar.Congruence

/-!
# Budgets

A run that comes to an end within some budget is the same run within any larger one, events
included: a budget decides only whether a run ends. So the outcome of a parse is a matter of its
grammar and its cursor, and it is enough to find one budget under which there is an outcome.
-/
namespace Descent

namespace Run
variable {κ β γ : Type}

/-- `s` is `r`, unless the budget of `r` was spent. -/
def Refines (s r : Run κ β) : Prop :=
  r.outcome? = none ∨ s = r

theorem Refines.refl (r : Run κ β) : r.Refines r := Or.inr rfl

theorem Refines.eq {r s : Run κ β} (h : s.Refines r) (hr : r.outcome? ≠ none) : s = r :=
  h.resolve_left hr

theorem refines_exhausted (s : Run κ β) : s.Refines exhausted := Or.inl rfl

theorem Refines.after {r s : Run κ β} (h : s.Refines r) (log : List Event) :
    (s.after log).Refines (r.after log) := by
  rcases h with h | rfl
  · exact Or.inl h
  · exact Or.inr rfl

theorem Refines.continueWith {r s : Run κ β} {f f' : β → κ → Run κ γ}
    {g g' : ParseError → Run κ γ} (h : s.Refines r) (hf : ∀ v c, (f' v c).Refines (f v c))
    (hg : ∀ e, (g' e).Refines (g e)) : (s.continueWith f' g').Refines (r.continueWith f g) := by
  rcases h with h | rfl
  · exact Or.inl (by rw [continueWith_of_none h])
  · rcases hr : s.outcome? with _ | ⟨v, c⟩ | e
    · exact Or.inl (by rw [continueWith_of_none hr])
    · rw [continueWith_of_success hr, continueWith_of_success hr]
      exact (hf v c).after s.log
    · rw [continueWith_of_failure hr, continueWith_of_failure hr]
      exact (hg e).after s.log

/-- What stands in for a run that has spent its budget stands in for what goes on from there. -/
theorem refines_congruence : Congruence (κ := κ) (fun _ => True) Refines where
  success _ _ := Refines.refl _
  failure _ := Refines.refl _
  exhausted := refines_exhausted
  after _ h := h.after _
  continueWith := Refines.continueWith

theorem Refines.map {r s : Run κ β} (h : s.Refines r) (f : β → γ) :
    (s.map f).Refines (r.map f) :=
  refines_congruence.map h f

end Run

/-- At every cursor, `q` runs as `p` does, unless the budget of `p` is spent. -/
def Parser.Refines {κ β : Type} (q p : Parser κ β) : Prop :=
  ∀ c, (q c).Refines (p c)

namespace Parser.Refines
variable {κ α β γ : Type} [Cursor κ α] {p p' : Parser κ β} {m n : Nat}

theorem many (hp : p'.Refines p) (h : n ≤ m) : (p'.many m).Refines (p.many n) :=
  Run.refines_congruence.many hp h

theorem separated {s s' : Parser κ γ} (hp : p'.Refines p) (hs : s'.Refines s) (h : n ≤ m)
    (confirmed : κ) : (p'.separated s' m confirmed).Refines (p.separated s n confirmed) :=
  Run.refines_congruence.separated hp hs h confirmed

end Parser.Refines

variable {L : Type → Type} {ρ V κ α β : Type} [Cursor κ α]
  {read : {β : Type} → L β → κ → Outcome κ ParseError β} {m n : Nat}

theorem Grammar.parser_refines {callee callee' : ρ → Parser κ V}
    (hcallee : ∀ r, (callee' r).Refines (callee r)) (h : n ≤ m) (g : Grammar L ρ V β) :
    (g.parser read callee' m).Refines (g.parser read callee n) :=
  Run.refines_congruence.parser hcallee h g fun _ _ => trivial

namespace Rules
variable {rules : Rules L ρ V} {g : Grammar L ρ V β} {c : κ}

theorem parser_refines (h : n ≤ m) (r : ρ) :
    (rules.parser read m r).Refines (rules.parser read n r) := by
  induction n generalizing m r with
  | zero => exact fun _ => Run.refines_exhausted _
  | succ n ih =>
    obtain ⟨m, rfl⟩ : ∃ k, m = k + 1 := ⟨m - 1, by omega⟩
    rw [Rules.parser, Rules.parser]
    split
    · next g hg => exact g.parser_refines (fun r => ih (by omega) r) (by omega)
    · exact fun _ => Run.Refines.refl _

/-- A run within a budget is the run within any larger one. -/
theorem run_refines (h : n ≤ m) (g : Grammar L ρ V β) :
    (rules.run read m g).Refines (rules.run read n g) :=
  g.parser_refines (parser_refines h) h

theorem run_call_succ {r : ρ} {g : Grammar L ρ V V} (h : rules r = .ok g) (n : Nat) :
    rules.run read (n + 1) (.call r) = rules.run read n g := by
  simp only [run, Grammar.parser, Rules.parser, h]

theorem run_call_misused {r : ρ} {e : Misuse} (h : rules r = .error e) (n : Nat) :
    rules.run read (n + 1) (.call r) = Parser.misused e := by
  simp only [run, Grammar.parser, Rules.parser, h]

/-- The parse has the outcome `o`: it comes to it once the budget is large enough. -/
def EndsWith (rules : Rules L ρ V) (read : {β : Type} → L β → κ → Outcome κ ParseError β)
    (g : Grammar L ρ V β) (c : κ) (o : Outcome κ ParseError β) : Prop :=
  ∃ n, ∀ m, n ≤ m → (rules.run read m g c).outcome? = some o

theorem endsWith_of_run {o : Outcome κ ParseError β}
    (h : (rules.run read n g c).outcome? = some o) : rules.EndsWith read g c o := by
  refine ⟨n, fun m hm => ?_⟩
  rw [(run_refines hm g c).eq (by simp [h]), h]

theorem EndsWith.unique {o o' : Outcome κ ParseError β} (h : rules.EndsWith read g c o)
    (h' : rules.EndsWith read g c o') : o = o' := by
  obtain ⟨n, hn⟩ := h
  obtain ⟨n', hn'⟩ := h'
  have he := (hn (max n n') (Nat.le_max_left _ _)).symm.trans (hn' _ (Nat.le_max_right _ _))
  exact Option.some.inj he

end Rules
end Descent
