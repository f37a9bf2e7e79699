import Descent.Grammar

/-!
# Congruences of runs

Two runs of one grammar, or of two that differ somewhere inside, can be compared at every step. A
relation between runs that going on with a run respects is respected by each way to put parsers
together, the two repetitions included, and so by whole grammars and by the rules they call. The
first of the two runs may have the larger budget: whatever run stands in for one that has spent its
budget.

The labels that are noted on the way can be limited to a set; a relation may be respected only
by grammars that stay away from the others.
-/
namespace Descent

/-- A relation between runs that goes on with them. Notes of calls are made under labels of `A`. -/
structure Run.Congruence {κ : Type} (A : String → Prop)
    (Rel : {β : Type} → Run κ β → Run κ β → Prop) : Prop where
  success : ∀ {β : Type} (v : β) (c : κ), Rel (Run.success v c) (Run.success v c)
  failure : ∀ {β : Type} (e : ParseError), Rel (Run.failure e : Run κ β) (Run.failure e)
  exhausted : ∀ {β : Type} (s : Run κ β), Rel s Run.exhausted
  after : ∀ {β : Type} {s r : Run κ β} {log : List Event}, (∀ l, .thunk l ∈ log → A l) →
    Rel s r → Rel (s.after log) (r.after log)
  continueWith : ∀ {β γ : Type} {s r : Run κ β} {f' f : β → κ → Run κ γ}
    {g' g : ParseError → Run κ γ}, Rel s r → (∀ v c, Rel (f' v c) (f v c)) →
    (∀ e, Rel (g' e) (g e)) → Rel (s.continueWith f' g') (r.continueWith f g)

/-- At every cursor, the runs of the two parsers are related. -/
def Parser.Related {κ β : Type} (Rel : {β : Type} → Run κ β → Run κ β → Prop)
    (q p : Parser κ β) : Prop :=
  ∀ c, Rel (q c) (p c)

/-- The grammar notes calls under the label. -/
def Grammar.Carries {L : Type → Type} {ρ V : Type} (label : String) :
    {β : Type} → Grammar L ρ V β → Prop
  | _, leaf _ => False
  | _, succeed _ => False
  | _, reject _ => False
  | _, orElse p q => p.Carries label ∨ q.Carries label
  | _, bind p k => p.Carries label ∨ ∃ v, (k v).Carries label
  | _, many p => p.Carries label
  | _, sepBy p s => p.Carries label ∨ s.Carries label
  | _, defer l p => l = some label ∨ p.Carries label
  | _, traced _ p => p.Carries label
  | _, call _ => False

namespace Run.Congruence
variable {κ α β γ : Type} {A : String → Prop} {Rel : {β : Type} → Run κ β → Run κ β → Prop}
  (h : Congruence A Rel)
include h

theorem map {s r : Run κ β} (hr : Rel s r) (f : β → γ) : Rel (s.map f) (r.map f) :=
  h.continueWith hr (fun _ _ => h.success _ _) fun _ => h.failure _

theorem raise (e : ParseError) : Rel (Run.raise e : Run κ β) (Run.raise e) := by
  have hlog : ∀ l, Event.thunk l ∈ [Event.raised e] → A l := by simp
  exact h.after hlog (h.failure e)

theorem ofOutcome (o : Outcome κ ParseError β) : Rel (Run.ofOutcome o) (Run.ofOutcome o) := by
  cases o with
  | success v c => exact h.success v c
  | failure e => exact h.raise e

variable [Cursor κ α] {p' p q' q : Parser κ β} {m n : Nat}

theorem orElse (hp : p'.Related Rel p) (hq : q'.Related Rel q) :
    (p'.orElse q').Related Rel (p.orElse q) := fun c =>
  h.continueWith (hp c) (fun _ _ => h.success _ _) fun _ => hq c

theorem bind {k' k : β → Parser κ γ} (hp : p'.Related Rel p)
    (hk : ∀ v, (k' v).Related Rel (k v)) : (p'.bind k').Related Rel (p.bind k) := fun c =>
  h.continueWith (hp c) (fun v d => hk v d) fun _ => h.failure _

theorem many (hp : p'.Related Rel p) (hnm : n ≤ m) : (p'.many m).Related Rel (p.many n) := by
  induction n generalizing m with
  | zero => exact fun _ => h.exhausted _
  | succ n ih =>
    obtain ⟨m, rfl⟩ : ∃ k, m = k + 1 := ⟨m - 1, by omega⟩
    intro c
    rw [Parser.many, Parser.many]
    refine h.continueWith (hp c) (fun v rest => ?_) fun _ => h.success _ _
    split
    · exact h.success _ _
    · exact h.map (ih (by omega) rest) _

theorem separated {s' s : Parser κ γ} (hp : p'.Related Rel p) (hs : s'.Related Rel s)
    (hnm : n ≤ m) (confirmed : κ) :
    (p'.separated s' m confirmed).Related Rel (p.separated s n confirmed) := by
  induction n generalizing m confirmed with
  | zero => exact fun _ => h.exhausted _
  | succ n ih =>
    obtain ⟨m, rfl⟩ : ∃ k, m = k + 1 := ⟨m - 1, by omega⟩
    intro next
    rw [Parser.separated, Parser.separated]
    refine h.continueWith (hp next) (fun v item => ?_) fun _ => h.success _ _
    refine h.continueWith (hs item) (fun _ following => ?_) fun _ => h.success _ _
    split
    · exact h.success _ _
    · exact h.map (ih (by omega) item following) _

theorem defer {label : Option String} (hlabel : ∀ l, label = some l → A l)
    (hp : p'.Related Rel p) : (p'.defer label).Related Rel (p.defer label) := by
  refine fun c => h.after (fun l hl => ?_) (hp c)
  obtain ⟨l', hl', hcalled⟩ := List.mem_map.mp hl
  obtain rfl := Event.thunk.inj hcalled
  exact hlabel l' (Option.mem_toList.mp hl')

theorem traced (hp : p'.Related Rel p) (name : String) :
    (p'.traced name).Related Rel (p.traced name) := fun c =>
  h.after (by simp) (h.continueWith (hp c) (fun _ _ => h.after (by simp) (h.success _ _))
    fun _ => h.after (by simp) (h.failure _))

variable {L : Type → Type} {ρ V : Type} {read : {β : Type} → L β → κ → Outcome κ ParseError β}

/-- A grammar whose labels are in the set has related runs, if the grammars it calls have. -/
theorem parser {callee' callee : ρ → Parser κ V}
    (hcallee : ∀ r, (callee' r).Related Rel (callee r)) (hnm : n ≤ m) (g : Grammar L ρ V β)
    (hg : ∀ l, g.Carries l → A l) :
    (g.parser read callee' m).Related Rel (g.parser read callee n) := by
  induction g with
  | leaf l => exact fun _ => h.ofOutcome _
  | succeed v => exact fun _ => h.success _ _
  | reject message => exact fun _ => h.raise _
  | orElse p q ihp ihq =>
    exact h.orElse (ihp fun l hl => hg l (.inl hl)) (ihq fun l hl => hg l (.inr hl))
  | bind p k ihp ihk =>
    exact h.bind (ihp fun l hl => hg l (.inl hl)) fun v => ihk v fun l hl => hg l (.inr ⟨v, hl⟩)
  | many p ih => exact h.many (ih hg) hnm
  | sepBy p s ihp ihs =>
    have hp := ihp fun l hl => hg l (.inl hl)
    have hs := ihs fun l hl => hg l (.inr hl)
    exact fun c => h.separated hp hs hnm c c
  | defer label p ih =>
    exact h.defer (fun l hl => hg l (.inl hl)) (ih fun l hl => hg l (.inr hl))
  | traced name p ih => exact h.traced (ih hg) name
  | call r => exact hcallee r

end Run.Congruence
end Descent
