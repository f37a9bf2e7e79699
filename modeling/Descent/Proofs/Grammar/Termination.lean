import Mathlib.Logic.ExistsUnique
import Descent.Proofs.Grammar.Budget
import Descent.Proofs.Grammar.Suffix

/-!
# Parses that come to an end

A system of grammars can fail to end only by left recursion. If the names can be ranked so that
whatever a rule calls before it has consumed anything ranks below it, then every parse ends: the
remaining atoms grow fewer, or they stay and the rank sinks, or both stay and the grammar gets
smaller. Repetitions need no premise of their own, since a round that consumes nothing is the last
one.
-/
namespace Descent

namespace Run
variable {κ β γ : Type}

/-- Runs for every budget, where a larger budget changes only runs that did not end. -/
def Growing (R : Nat → Run κ β) : Prop :=
  ∀ n m, n ≤ m → (R m).Refines (R n)

/-- Some budget is enough. -/
def Ends (R : Nat → Run κ β) : Prop :=
  ∃ n, (R n).outcome? ≠ none

theorem ends_success (v : β) (c : κ) : Ends fun _ => success v c := ⟨0, by simp⟩

theorem ends_failure (e : ParseError) : Ends fun _ => (failure e : Run κ β) := ⟨0, by simp⟩

theorem growing_const (r : Run κ β) : Growing fun _ => r := fun _ _ _ => Refines.refl r

/-- A continued run ends if its first part does and then whatever follows it. -/
theorem ends_continueWith {R : Nat → Run κ β} {F : Nat → β → κ → Run κ γ}
    {G : Nat → ParseError → Run κ γ} (hR : Growing R) (hF : ∀ v c, Growing fun n => F n v c)
    (hG : ∀ e, Growing fun n => G n e) (h : Ends R)
    (hs : ∀ n v c, (R n).outcome? = some (.success v c) → Ends fun n => F n v c)
    (hf : ∀ n e, (R n).outcome? = some (.failure e) → Ends fun n => G n e) :
    Ends fun n => (R n).continueWith (F n) (G n) := by
  obtain ⟨n, hn⟩ := h
  have hlarger : ∀ m, n ≤ m → R m = R n := fun m hm => (hR n m hm).eq hn
  rcases ho : (R n).outcome? with _ | ⟨v, c⟩ | e
  · exact absurd ho hn
  · obtain ⟨m, hm⟩ := hs n v c ho
    have hk : F (max n m) v c = F m v c := (hF v c m _ (Nat.le_max_right _ _)).eq hm
    refine ⟨max n m, ?_⟩
    show ((R (max n m)).continueWith _ _).outcome? ≠ none
    rw [hlarger _ (Nat.le_max_left _ _), continueWith_of_success ho, outcome?_after, hk]
    exact hm
  · obtain ⟨m, hm⟩ := hf n e ho
    have hk : G (max n m) e = G m e := (hG e m _ (Nat.le_max_right _ _)).eq hm
    refine ⟨max n m, ?_⟩
    show ((R (max n m)).continueWith _ _).outcome? ≠ none
    rw [hlarger _ (Nat.le_max_left _ _), continueWith_of_failure ho, outcome?_after, hk]
    exact hm

theorem Ends.map {R : Nat → Run κ β} (h : Ends R) (f : β → γ) : Ends fun n => (R n).map f := by
  obtain ⟨n, hn⟩ := h
  refine ⟨n, ?_⟩
  show ((R n).continueWith _ _).outcome? ≠ none
  rcases ho : (R n).outcome? with _ | ⟨v, c⟩ | e
  · exact absurd ho hn
  · simp [continueWith_of_success ho]
  · simp [continueWith_of_failure ho]

theorem Ends.of_refines {R S : Nat → Run κ β} (h : Ends R)
    (hrefines : ∀ n, ∃ m, (S m).Refines (R n)) : Ends S := by
  obtain ⟨n, hn⟩ := h
  obtain ⟨m, hm⟩ := hrefines n
  exact ⟨m, by rw [hm.eq hn]; exact hn⟩

end Run

namespace Parser
variable {κ α β γ : Type} [Cursor κ α] {good : κ → Prop}

/-- Parsers for every budget, where a larger budget changes only runs that did not end. -/
def Growing (P : Nat → Parser κ β) : Prop :=
  ∀ n m, n ≤ m → (P m).Refines (P n)

/-- What follows a round of a repetition: nothing if the round has not moved from `c` to `d`, and
else further rounds, which need to end only if fewer atoms remain. -/
theorem ends_round (w : Cursor.Walkable good) (hself : ∀ c, good c → (c == c) = true) {c d : κ}
    (hc : good c) (hcd : Cursor.Reaches c d) (stop : Run κ (List β)) (v : β)
    {R : Nat → Run κ (List β)} (hstop : Run.Ends fun _ => stop)
    (hmore : (Cursor.remaining d).length < (Cursor.remaining c).length → Run.Ends R) :
    Run.Ends fun n => if d == c then stop else (R n).map (v :: ·) := by
  rcases w.eq_or_length_lt hc hcd with rfl | hlt
  · simpa only [hself d hc, if_true] using hstop
  · split
    · exact hstop
    · exact (hmore hlt).map _

theorem growing_round (b : Bool) (stop : Run κ (List β)) (v : β) {R : Nat → Run κ (List β)}
    (hR : Run.Growing R) : Run.Growing fun n => if b then stop else (R n).map (v :: ·) := by
  intro n m h
  split
  · exact Run.Refines.refl _
  · exact (hR n m h).map _

/-- A repetition ends at `c` if its element ends there and wherever fewer atoms remain. -/
theorem ends_many (w : Cursor.Walkable good) (hself : ∀ c, good c → (c == c) = true)
    {P : Nat → Parser κ β} (hP : Growing P) (hadv : ∀ n, (P n).Advances good) {c : κ}
    (hc : good c)
    (h : ∀ d, good d → d = c ∨ (Cursor.remaining d).length < (Cursor.remaining c).length →
      Run.Ends fun n => P n d) :
    Run.Ends fun n => (P n).many n c := by
  induction hlen : (Cursor.remaining c).length using Nat.strongRecOn generalizing c with
  | ind len ih =>
    refine Run.Ends.of_refines (R := fun n => (P (n + 1)).many (n + 1) c) ?_
      fun n => ⟨n + 1, Run.Refines.refl _⟩
    refine Run.ends_continueWith (fun n m hnm => hP _ _ (by omega) c)
      (fun v d => growing_round _ _ v fun n m hnm => (hP _ _ (by omega)).many hnm d)
      (fun _ => Run.growing_const _) ?_ (fun n v d hd => ?_) fun _ _ _ => Run.ends_success _ _
    · exact (h c hc (Or.inl rfl)).of_refines fun n => ⟨n, hP _ _ (by omega) c⟩
    · have hcd := hadv (n + 1) c v d hc hd
      refine ends_round w hself hc hcd _ v (Run.ends_success _ _) fun hlt => ?_
      have hrest : Run.Ends fun n => (P n).many n d := by
        refine ih _ (hlen ▸ hlt) (hcd.preserves w.next_mem hc) (fun d' hd' hle => ?_) rfl
        refine h d' hd' (Or.inr ?_)
        rcases hle with rfl | hlt'
        · exact hlt
        · omega
      exact hrest.of_refines fun n => ⟨n, (hP _ _ (by omega)).many (Nat.le_refl n) d⟩

/-- A repetition with separators ends at `next` if its item ends there and wherever fewer atoms
remain, and the separator at the end of every item. -/
theorem ends_separated (w : Cursor.Walkable good) (hself : ∀ c, good c → (c == c) = true)
    {P : Nat → Parser κ β} {S : Nat → Parser κ γ} (hP : Growing P) (hS : Growing S)
    (hadvP : ∀ n, (P n).Advances good) (hadvS : ∀ n, (S n).Advances good) {next : κ}
    (hnext : good next) (confirmed : κ)
    (h : ∀ d, good d → d = next ∨ (Cursor.remaining d).length < (Cursor.remaining next).length →
      (Run.Ends fun n => P n d) ∧
        ∀ n v item, (P n d).outcome? = some (.success v item) → Run.Ends fun n => S n item) :
    Run.Ends fun n => (P n).separated (S n) n confirmed next := by
  induction hlen : (Cursor.remaining next).length using Nat.strongRecOn
    generalizing next confirmed with
  | ind len ih =>
    refine Run.Ends.of_refines
      (R := fun n => (P (n + 1)).separated (S (n + 1)) (n + 1) confirmed next) ?_
      fun n => ⟨n + 1, Run.Refines.refl _⟩
    have hround : ∀ v item following, Run.Growing fun n =>
        if following == next then Run.success [v] item
        else ((P (n + 1)).separated (S (n + 1)) n item following).map (v :: ·) :=
      fun v item following => growing_round _ _ v fun n m hnm =>
        (hP _ _ (by omega)).separated (hS _ _ (by omega)) hnm item following
    refine Run.ends_continueWith (fun n m hnm => hP _ _ (by omega) next)
      (fun v item n m hnm => ?_) (fun _ => Run.growing_const _) ?_ (fun n v item hitem => ?_)
      fun _ _ _ => Run.ends_success _ _
    · exact (hS _ _ (by omega) item).continueWith
        (fun _ following => hround v item following n m hnm) fun _ => Run.Refines.refl _
    · exact (h next hnext (Or.inl rfl)).1.of_refines fun n => ⟨n, hP _ _ (by omega) next⟩
    · have hwalk := hadvP (n + 1) next v item hnext hitem
      have hgitem : good item := hwalk.preserves w.next_mem hnext
      refine Run.ends_continueWith (fun n m hnm => hS _ _ (by omega) item)
        (fun _ following => hround v item following) (fun _ => Run.growing_const _) ?_
        (fun n' u following hfollowing => ?_) fun _ _ _ => Run.ends_success _ _
      · exact ((h next hnext (Or.inl rfl)).2 (n + 1) v item hitem).of_refines
          fun n => ⟨n, hS _ _ (by omega) item⟩
      · have hwalk' := hwalk.trans (hadvS (n' + 1) item u following hgitem hfollowing)
        refine ends_round w hself hnext hwalk' _ v (Run.ends_success _ _) fun hlt => ?_
        have hrest : Run.Ends fun n => (P n).separated (S n) n item following := by
          refine ih _ (hlen ▸ hlt) (hwalk'.preserves w.next_mem hnext) item
            (fun d hd hle => h d hd (Or.inr ?_)) rfl
          rcases hle with rfl | hlt'
          · exact hlt
          · omega
        exact hrest.of_refines fun n => ⟨n, (hP _ _ (by omega)).separated
          (hS _ _ (by omega)) (Nat.le_refl n) item following⟩

end Parser

variable {L : Type → Type} {ρ V κ α : Type}

/-- Whether the grammar may call the name before an atom has been consumed. What comes second may
be reached so unless what comes first `consumes`. -/
def Grammar.Starts (consumes : {β : Type} → Grammar L ρ V β → Prop) (r : ρ) :
    {β : Type} → Grammar L ρ V β → Prop
  | _, leaf _ => False
  | _, succeed _ => False
  | _, reject _ => False
  | _, orElse p q => p.Starts consumes r ∨ q.Starts consumes r
  | _, bind p k => p.Starts consumes r ∨ ¬ consumes p ∧ ∃ v, (k v).Starts consumes r
  | _, many p => p.Starts consumes r
  | _, sepBy p s => p.Starts consumes r ∨ ¬ consumes p ∧ s.Starts consumes r
  | _, defer _ p => p.Starts consumes r
  | _, traced _ p => p.Starts consumes r
  | _, call r' => r' = r

variable [Cursor κ α]

namespace Rules
variable {read : {β : Type} → L β → κ → Outcome κ ParseError β} {rules : Rules L ρ V}
  {good : κ → Prop}

/-- At the cursors of the set, the grammar can succeed only by consuming. -/
def Consumes (rules : Rules L ρ V) (read : {β : Type} → L β → κ → Outcome κ ParseError β)
    (good : κ → Prop) {β : Type} (g : Grammar L ρ V β) : Prop :=
  ∀ n c v rest, good c → (rules.run read n g c).outcome? = some (.success v rest) →
    Cursor.position c < Cursor.position rest

/-- Whatever a rule may call before an atom has been consumed ranks below it. -/
def Ranked (rules : Rules L ρ V) (read : {β : Type} → L β → κ → Outcome κ ParseError β)
    (good : κ → Prop) (rank : ρ → Nat) : Prop :=
  ∀ r g, rules r = .ok g → ∀ r', g.Starts (rules.Consumes read good) r' → rank r' < rank r

theorem run_growing {β : Type} (g : Grammar L ρ V β) :
    Parser.Growing fun n => rules.run read n g :=
  fun _ _ h => run_refines h g

/-- The remainder of a success is the cursor itself only if the grammar may succeed without
consuming. -/
theorem rest_of_run (w : Cursor.Walkable good) (hrules : rules.AllLeaves (Onward read good))
    {c d : κ} (hc : good c) {β : Type} {p : Grammar L ρ V β} (hp : p.AllLeaves (Onward read good))
    {n : Nat} {v : β} (h : (rules.run read n p c).outcome? = some (.success v d)) :
    good d ∧ ((d = c ∧ ¬ rules.Consumes read good p) ∨
      (Cursor.remaining d).length < (Cursor.remaining c).length) := by
  have hcd := run_advances w.next_mem hrules hp n c v d hc h
  refine ⟨hcd.preserves w.next_mem hc, ?_⟩
  rcases w.eq_or_length_lt hc hcd with rfl | hlt
  · exact Or.inl ⟨rfl, fun hcons => Nat.lt_irrefl _ (hcons n d v d hc h)⟩
  · exact Or.inr hlt

/-- A grammar ends at `c` if the names it may call at once end there, and all grammars of the
system end wherever fewer atoms remain. -/
theorem ends_of_starts (w : Cursor.Walkable good) (hself : ∀ c, good c → (c == c) = true)
    (hrules : rules.AllLeaves (Onward read good)) {c : κ} (hc : good c)
    (hless : ∀ d, good d → (Cursor.remaining d).length < (Cursor.remaining c).length →
      ∀ {β : Type} (g : Grammar L ρ V β), g.AllLeaves (Onward read good) →
        Run.Ends fun n => rules.run read n g d)
    {β : Type} (g : Grammar L ρ V β) (hg : g.AllLeaves (Onward read good))
    (hcalls : ∀ r, g.Starts (rules.Consumes read good) r →
      Run.Ends fun n => rules.run read n (.call r) c) :
    Run.Ends fun n => rules.run read n g c := by
  have hadv : ∀ {β : Type} (g : Grammar L ρ V β), g.AllLeaves (Onward read good) →
      ∀ n, (rules.run read n g).Advances good := fun g hg n =>
    run_advances w.next_mem hrules hg n
  induction g with
  | leaf l => exact ⟨0, by simp [run, Grammar.parser]⟩
  | succeed v => exact Run.ends_success v c
  | reject message => exact ⟨0, by simp [run, Grammar.parser, Parser.reject]⟩
  | orElse p q ihp ihq =>
    refine Run.ends_continueWith (fun n m h => run_growing p n m h c)
      (fun _ _ => Run.growing_const _) (fun _ n m h => run_growing q n m h c)
      (ihp hg.1 fun r hr => hcalls r (Or.inl hr)) (fun _ _ _ _ => Run.ends_success _ _)
      fun _ _ _ => ihq hg.2 fun r hr => hcalls r (Or.inr hr)
  | bind p k ihp ihk =>
    refine Run.ends_continueWith (fun n m h => run_growing p n m h c)
      (fun v d n m h => run_growing (k v) n m h d) (fun _ => Run.growing_const _)
      (ihp hg.1 fun r hr => hcalls r (Or.inl hr)) (fun n v d hd => ?_)
      fun _ _ _ => Run.ends_failure _
    obtain ⟨hgd, ⟨rfl, hcons⟩ | hlt⟩ := rest_of_run w hrules hc hg.1 hd
    · exact ihk v (hg.2 v) fun r hr => hcalls r (Or.inr ⟨hcons, v, hr⟩)
    · exact hless d hgd hlt (k v) (hg.2 v)
  | many p ih =>
    refine Parser.ends_many w hself (run_growing p) (hadv p hg) hc fun d hd hle => ?_
    rcases hle with rfl | hlt
    · exact ih hg hcalls
    · exact hless d hd hlt p hg
  | sepBy p s ihp ihs =>
    refine Parser.ends_separated w hself (run_growing p) (run_growing s) (hadv p hg.1)
      (hadv s hg.2) hc c fun d hd hle => ?_
    rcases hle with rfl | hlt
    · refine ⟨ihp hg.1 fun r hr => hcalls r (Or.inl hr), fun n v item hitem => ?_⟩
      obtain ⟨hgi, ⟨rfl, hcons⟩ | hlt⟩ := rest_of_run w hrules hc hg.1 hitem
      · exact ihs hg.2 fun r hr => hcalls r (Or.inr ⟨hcons, hr⟩)
      · exact hless item hgi hlt s hg.2
    · refine ⟨hless d hd hlt p hg.1, fun n v item hitem => ?_⟩
      have hdi := hadv p hg.1 n d v item hd hitem
      have hle := w.length_le hd hdi
      exact hless item (hdi.preserves w.next_mem hd) (by omega) s hg.2
  | defer label p ih => exact ih hg hcalls
  | traced name p ih =>
    refine Run.ends_continueWith (fun n m h => run_growing p n m h c)
      (fun _ _ => Run.growing_const _) (fun _ => Run.growing_const _) (ih hg hcalls)
      (fun _ v d _ => Run.ends_success v d) fun _ e _ => Run.ends_failure e
  | call r => exact hcalls r rfl

theorem ends_call {r : ρ} {g : Grammar L ρ V V} {c : κ} (hr : rules r = .ok g)
    (h : Run.Ends fun n => rules.run read n g c) :
    Run.Ends fun n => rules.run read n (.call r) c := by
  obtain ⟨n, hn⟩ := h
  refine ⟨n + 1, ?_⟩
  show (rules.run read (n + 1) (.call r) c).outcome? ≠ none
  rw [run_call_succ hr]
  exact hn

theorem ends_misused {r : ρ} {m : Misuse} (hr : rules r = .error m) (c : κ) :
    Run.Ends fun n => rules.run read n (.call r) c := by
  refine ⟨1, ?_⟩
  show (rules.run read 1 (.call r) c).outcome? ≠ none
  simp [run_call_misused hr, Parser.misused]

/-- In a ranked system every parse ends. -/
theorem ends_of_ranked (w : Cursor.Walkable good) (hself : ∀ c, good c → (c == c) = true)
    (hrules : rules.AllLeaves (Onward read good)) {rank : ρ → Nat}
    (hrank : rules.Ranked read good rank) {c : κ} (hc : good c) {β : Type}
    (g : Grammar L ρ V β) (hg : g.AllLeaves (Onward read good)) :
    Run.Ends fun n => rules.run read n g c := by
  induction hlen : (Cursor.remaining c).length using Nat.strongRecOn generalizing c β with
  | ind len ih =>
    have hless : ∀ d, good d → (Cursor.remaining d).length < (Cursor.remaining c).length →
        ∀ {β : Type} (g : Grammar L ρ V β), g.AllLeaves (Onward read good) →
          Run.Ends fun n => rules.run read n g d :=
      fun d hd hlt β g hg => ih _ (hlen ▸ hlt) hd g hg rfl
    have hcalls : ∀ k r, rank r = k → Run.Ends fun n => rules.run read n (.call r) c := by
      intro k
      induction k using Nat.strongRecOn with
      | ind k ihk =>
        intro r hr
        cases hbody : rules r with
        | ok body =>
          refine ends_call hbody
            (ends_of_starts w hself hrules hc hless body (hrules r body hbody) fun r' hr' => ?_)
          exact ihk (rank r') (hr ▸ hrank r body hbody r' hr') r' rfl
        | error m => exact ends_misused hbody c
    exact ends_of_starts w hself hrules hc hless g hg fun r _ => hcalls _ r rfl

theorem existsUnique_endsWith {β : Type} {g : Grammar L ρ V β} {c : κ}
    (h : Run.Ends fun n => rules.run read n g c) : ∃! o, rules.EndsWith read g c o := by
  obtain ⟨n, hn⟩ := h
  obtain ⟨o, ho⟩ := Option.ne_none_iff_exists'.mp hn
  exact ⟨o, endsWith_of_run ho, fun o' ho' => ho'.unique (endsWith_of_run ho)⟩

end Rules

/-- The cursors that walk the source `s`. -/
def TextCursor.Walks (s : Source Char) (c : TextCursor) : Prop :=
  c.source = s ∧ c.OnBoundary

/-- The cursors that walk the source `s`. -/
def ElementCursor.Walks (s : Source α) (c : ElementCursor α) : Prop :=
  c.source = s ∧ c.Canonical

theorem TextCursor.walkable_walks (s : Source Char) : Cursor.Walkable (TextCursor.Walks s) where
  next_mem c h := ⟨(source_next c).trans h.1, walkable.next_mem c h.2⟩
  remaining_next c h := walkable.remaining_next c h.2
  next_eq_self c h := walkable.next_eq_self c h.2

theorem ElementCursor.walkable_walks [BEq α] [Atom α] (s : Source α) :
    Cursor.Walkable (ElementCursor.Walks s) where
  next_mem c h := ⟨(source_next c).trans h.1, walkable.next_mem c h.2⟩
  remaining_next c h := walkable.remaining_next c h.2
  next_eq_self c h := walkable.next_eq_self c h.2

/-- From the cursors that walk `s`, the leaf leaves a suffix. -/
def TextCursor.LeavesSuffix {L : Type → Type} (s : Source Char)
    (read : {β : Type} → L β → TextCursor → Outcome TextCursor ParseError β) {β : Type}
    (l : L β) : Prop :=
  ∀ c v rest, c.Walks s → read l c = .success v rest → rest.Follows c

/-- From the cursors that walk `s`, the leaf leaves a suffix. -/
def ElementCursor.LeavesSuffix {L : Type → Type} [BEq α] [Atom α] (s : Source α)
    (read : {β : Type} → L β → ElementCursor α → Outcome (ElementCursor α) ParseError β)
    {β : Type} (l : L β) : Prop :=
  ∀ c v rest, c.Walks s → read l c = .success v rest → rest.Follows c

theorem TextCursor.LeavesSuffix.onward {s : Source Char}
    {read : {β : Type} → L β → TextCursor → Outcome TextCursor ParseError β} {β : Type} {l : L β}
    (h : LeavesSuffix s read l) : Onward read (Walks s) l :=
  fun c v rest hc hread => reaches_of_follows hc.2 (h c v rest hc hread)

theorem ElementCursor.LeavesSuffix.onward [BEq α] [Atom α] {s : Source α}
    {read : {β : Type} → L β → ElementCursor α → Outcome (ElementCursor α) ParseError β}
    {β : Type} {l : L β} (h : LeavesSuffix s read l) : Onward read (Walks s) l :=
  fun c v rest hc hread => reaches_of_follows hc.2 (h c v rest hc hread)

/-- Only left recursion keeps a parse from ending. If the rules can be ranked as above, and the
leaves leave suffixes, then a parse of any grammar of the system has exactly one outcome, on every
text and on every sequence of atoms that equal themselves. The names of the rules may stand for the
slots and boxes of a store. -/
theorem ranked_system_ends :
    (∀ {L : Type → Type} {ρ V β : Type} (rules : Rules L ρ V)
      (read : {β : Type} → L β → TextCursor → Outcome TextCursor ParseError β)
      (source : Source Char) (rank : ρ → Nat) (g : Grammar L ρ V β) (start : TextCursor),
      rules.AllLeaves (TextCursor.LeavesSuffix source read) →
      g.AllLeaves (TextCursor.LeavesSuffix source read) →
      rules.Ranked read (TextCursor.Walks source) rank → start.Walks source →
      ∃! o, rules.EndsWith read g start o) ∧
    ∀ {L : Type → Type} {α ρ V β : Type} [BEq α] [Atom α] (rules : Rules L ρ V)
      (read : {β : Type} → L β → ElementCursor α → Outcome (ElementCursor α) ParseError β)
      (source : Source α) (rank : ρ → Nat) (g : Grammar L ρ V β) (start : ElementCursor α),
      (∀ a ∈ source.elements, (a == a) = true) →
      rules.AllLeaves (ElementCursor.LeavesSuffix source read) →
      g.AllLeaves (ElementCursor.LeavesSuffix source read) →
      rules.Ranked read (ElementCursor.Walks source) rank → start.Walks source →
      ∃! o, rules.EndsWith read g start o := by
  constructor
  · intro L ρ V β rules read source rank g start hrules hg hrank hstart
    have hself : ∀ c : TextCursor, c.Walks source → (c == c) = true := fun c _ => c.beq_self
    exact Rules.existsUnique_endsWith (Rules.ends_of_ranked (TextCursor.walkable_walks source)
      hself (hrules.imp fun l hl => hl.onward) hrank hstart g (hg.imp fun l hl => hl.onward))
  · intro L α ρ V β _ _ rules read source rank g start hself hrules hg hrank hstart
    have hbeq : ∀ c : ElementCursor α, c.Walks source → (c == c) = true := by
      rintro c ⟨rfl, _⟩
      exact ElementCursor.beq_self hself
    exact Rules.existsUnique_endsWith (Rules.ends_of_ranked (ElementCursor.walkable_walks source)
      hbeq (hrules.imp fun l hl => hl.onward) hrank hstart g (hg.imp fun l hl => hl.onward))

/-- A parenthesis that opens a group is consumed before anything else is called. -/
theorem parentheses_ranked (source : Source Char) :
    (parentheses.rules fun r => r.elim).Ranked (OpenLeaf.read TextLeaf.read)
      (TextCursor.Walks source) fun _ => 0 := by
  have hopens : ∀ rules : Rules (OpenLeaf TextLeaf TextCursor) (Forward.Target Empty) Unit,
      rules.Consumes (OpenLeaf.read TextLeaf.read) (TextCursor.Walks source)
        (.leaf (.ready (.inr (.tag ['('])))) := by
    intro rules n c v rest hc h
    rw [Rules.run, Grammar.parser, Run.outcome?_ofOutcome, Option.some.injEq] at h
    exact Stretch.offset_lt_of_readTag hc.2 h
  intro r g hg r' hstarts
  obtain rfl := eq_balanced_of_rules hg
  simp [balanced, Grammar.Starts, Grammar.erase, Grammar.map, Grammar.andThen, hopens] at hstarts

theorem ranked_system_ends_parentheses :
    (∃! o, (parentheses.rules fun r => r.elim).EndsWith (OpenLeaf.read TextLeaf.read)
      (.call (.slot 0)) (TextCursor.start ⟨0, ['(', '(', ')', ')', '(']⟩) o) ∧
    ∃! o, Rules.EndsWith (fun r : Empty => r.elim) (Leaf.read (α := Token))
      (Grammar.sepBy (.leaf .ended) (.leaf .position) : Grammar (Leaf Token) Empty Unit (List Bool))
      (ElementCursor.start ⟨0, [Token.comma, Token.newline]⟩) o := by
  constructor
  · refine ranked_system_ends.1 _ _ _ (fun _ => 0) _ _
      (parentheses_allLeaves.imp fun l hl c v rest hc h => ?_) trivial (parentheses_ranked _)
      ⟨rfl, TextCursor.onBoundary_start _⟩
    exact TextCursor.follows_of_reaches hc.2
      (hl.onward_text (fun _ hd => hd) c v rest hc.2 h)
  · refine ranked_system_ends.2 _ _ _ (fun r => r.elim) _ _ (by decide) (fun r _ _ => r.elim)
      ⟨?_, ?_⟩ (fun r _ _ _ => r.elim) ⟨rfl, ElementCursor.canonical_start _⟩
    · intro c v rest hc h
      exact ElementCursor.follows_of_reaches hc.2.inBounds (Leaf.reaches_of_read rfl h)
    · intro c v rest hc h
      exact ElementCursor.follows_of_reaches hc.2.inBounds (Leaf.reaches_of_read rfl h)

end Descent
