import Descent.Proofs.Grammar.Termination

/-!
# Outcomes of grammars

The outcome of a grammar is put together from the outcomes of its parts, and budgets have no place
in it. There is one equation for each way to put grammars together. Those for the two repetitions
unfold a single round; that a repetition may have no outcome shows in that no finite number of
rounds gives it one.
-/
namespace Descent

namespace Run
variable {κ β γ : Type} {R S : Nat → Run κ β} {o : Outcome κ ParseError β}

/-- Some budget brings the runs to the outcome `o`. -/
def ComesTo (R : Nat → Run κ β) (o : Outcome κ ParseError β) : Prop :=
  ∃ n, (R n).outcome? = some o

theorem Growing.outcome? (hR : Growing R) {n m : Nat} (h : n ≤ m)
    (ho : (R n).outcome? = some o) : (R m).outcome? = some o := by
  rw [(hR n m h).eq (by simp [ho]), ho]

theorem ComesTo.unique {o' : Outcome κ ParseError β} (hR : Growing R) (h : ComesTo R o)
    (h' : ComesTo R o') : o = o' := by
  obtain ⟨n, hn⟩ := h
  obtain ⟨m, hm⟩ := h'
  have ho := hR.outcome? (Nat.le_max_left n m) hn
  have ho' := hR.outcome? (Nat.le_max_right n m) hm
  exact Option.some.inj (ho.symm.trans ho')

theorem ComesTo.of_refines (h : ComesTo R o) (hrefines : ∀ n, ∃ m, (S m).Refines (R n)) :
    ComesTo S o := by
  obtain ⟨n, hn⟩ := h
  obtain ⟨m, hm⟩ := hrefines n
  exact ⟨m, by rw [hm.eq (by simp [hn]), hn]⟩

theorem Growing.comesTo_succ_iff (hR : Growing R) :
    ComesTo (fun n => R (n + 1)) o ↔ ComesTo R o :=
  ⟨fun ⟨n, hn⟩ => ⟨n + 1, hn⟩, fun ⟨n, hn⟩ => ⟨n, hR.outcome? (Nat.le_succ n) hn⟩⟩

theorem comesTo_const_iff {r : Run κ β} : ComesTo (fun _ => r) o ↔ r.outcome? = some o :=
  exists_const Nat

theorem comesTo_success_iff {v : β} {c : κ} :
    ComesTo (fun _ => success v c) o ↔ o = .success v c := by
  rw [comesTo_const_iff, outcome?_success, Option.some.injEq, eq_comm]

theorem comesTo_failure_iff {e : ParseError} :
    ComesTo (fun _ => failure e) o ↔ o = .failure e := by
  rw [comesTo_const_iff, outcome?_failure, Option.some.injEq, eq_comm]

theorem comesTo_continueWith_iff {F : Nat → β → κ → Run κ γ} {G : Nat → ParseError → Run κ γ}
    {o : Outcome κ ParseError γ} (hR : Growing R) (hF : ∀ v c, Growing fun n => F n v c)
    (hG : ∀ e, Growing fun n => G n e) :
    ComesTo (fun n => (R n).continueWith (F n) (G n)) o ↔
      (∃ v c, ComesTo R (.success v c) ∧ ComesTo (fun n => F n v c) o) ∨
        ∃ e, ComesTo R (.failure e) ∧ ComesTo (fun n => G n e) o := by
  constructor
  · rintro ⟨n, h⟩
    rcases ends_of_continueWith h with ⟨v, c, hr, hs⟩ | ⟨e, hr, hs⟩
    · exact Or.inl ⟨v, c, ⟨n, hr⟩, n, hs⟩
    · exact Or.inr ⟨e, ⟨n, hr⟩, n, hs⟩
  · -- Both parts have their outcome within the larger of the two budgets.
    rintro (⟨v, c, ⟨n, hn⟩, m, hm⟩ | ⟨e, ⟨n, hn⟩, m, hm⟩)
    · have hr := hR.outcome? (Nat.le_max_left n m) hn
      have hs := (hF v c).outcome? (Nat.le_max_right n m) hm
      exact ⟨max n m, (congrArg _ (continueWith_of_success hr)).trans hs⟩
    · have hr := hR.outcome? (Nat.le_max_left n m) hn
      have hs := (hG e).outcome? (Nat.le_max_right n m) hm
      exact ⟨max n m, (congrArg _ (continueWith_of_failure hr)).trans hs⟩

theorem outcome?_map (r : Run κ β) (f : β → γ) :
    (r.map f).outcome? = r.outcome?.map (Outcome.map fun v _ => f v) := by
  rcases r with ⟨_ | ⟨v, c⟩ | e, log⟩ <;> rfl

theorem ends_of_map {r : Run κ β} {f : β → γ} {o : Outcome κ ParseError γ}
    (h : (r.map f).outcome? = some o) :
    ∃ o', r.outcome? = some o' ∧ o = o'.map fun v _ => f v := by
  rw [outcome?_map, Option.map_eq_some_iff] at h
  obtain ⟨o', ho', rfl⟩ := h
  exact ⟨o', ho', rfl⟩

theorem comesTo_map_iff {f : β → γ} {o : Outcome κ ParseError γ} :
    ComesTo (fun n => (R n).map f) o ↔ ∃ o', ComesTo R o' ∧ o = o'.map fun v _ => f v := by
  simp only [ComesTo, outcome?_map, Option.map_eq_some_iff]
  constructor
  · rintro ⟨n, o', ho', rfl⟩
    exact ⟨o', ⟨n, ho'⟩, rfl⟩
  · rintro ⟨o', ⟨n, ho'⟩, rfl⟩
    exact ⟨n, o', ho', rfl⟩

/-- After a round, a repetition stops or goes on. -/
theorem comesTo_round_iff {b : Bool} {vs : List β} {c : κ} {v : β} {R : Nat → Run κ (List β)}
    {o : Outcome κ ParseError (List β)} :
    ComesTo (fun n => if b then success vs c else (R n).map (v :: ·)) o ↔
      if b then o = .success vs c else ∃ o', ComesTo R o' ∧ o = o'.map fun ws _ => v :: ws := by
  cases b with
  | true => exact comesTo_success_iff
  | false => exact comesTo_map_iff

end Run

namespace Parser
variable {κ α β γ : Type} [Cursor κ α] {P Q : Nat → Parser κ β} {S : Nat → Parser κ γ}

theorem comesTo_orElse_iff (hP : Growing P) (hQ : Growing Q) {c : κ} {o : Outcome κ ParseError β} :
    Run.ComesTo (fun n => (P n).orElse (Q n) c) o ↔
      (∃ v d, Run.ComesTo (fun n => P n c) (.success v d) ∧ o = .success v d) ∨
        ∃ e, Run.ComesTo (fun n => P n c) (.failure e) ∧ Run.ComesTo (fun n => Q n c) o := by
  refine (Run.comesTo_continueWith_iff (fun n m h => hP n m h c)
    (fun v d => Run.growing_const (Run.success v d)) fun _ n m h => hQ n m h c).trans ?_
  simp only [Run.comesTo_success_iff]

theorem comesTo_bind_iff {K : Nat → β → Parser κ γ} (hP : Growing P)
    (hK : ∀ v, Growing fun n => K n v) {c : κ} {o : Outcome κ ParseError γ} :
    Run.ComesTo (fun n => (P n).bind (K n) c) o ↔
      (∃ v d, Run.ComesTo (fun n => P n c) (.success v d) ∧
        Run.ComesTo (fun n => K n v d) o) ∨
        ∃ e, Run.ComesTo (fun n => P n c) (.failure e) ∧ o = .failure e := by
  refine (Run.comesTo_continueWith_iff (fun n m h => hP n m h c)
    (fun v d n m h => hK v n m h d) fun e => Run.growing_const (Run.failure e)).trans ?_
  simp only [Run.comesTo_failure_iff]

theorem comesTo_many_iff (hP : Growing P) {c : κ} {o : Outcome κ ParseError (List β)} :
    Run.ComesTo (fun n => (P n).many n c) o ↔
      (∃ v d, Run.ComesTo (fun n => P n c) (.success v d) ∧
        if d == c then o = .success [v] c
        else ∃ o', Run.ComesTo (fun n => (P n).many n d) o' ∧ o = o'.map fun vs _ => v :: vs) ∨
      ∃ e, Run.ComesTo (fun n => P n c) (.failure e) ∧ o = .success [] c := by
  have hmany : ∀ d, Run.Growing fun n => (P n).many n d :=
    fun d n m h => (hP n m h).many h d
  -- The rounds after the first one have a budget that is lower by one than that of their element.
  have hrest : ∀ d, Run.Growing fun n => (P (n + 1)).many n d :=
    fun d n m h => (hP _ _ (by omega)).many h d
  have hlower : ∀ d o, Run.ComesTo (fun n => (P (n + 1)).many n d) o ↔
      Run.ComesTo (fun n => (P n).many n d) o := fun d o =>
    ⟨fun h => h.of_refines fun n => ⟨n + 1, (hP _ _ (Nat.le_refl _)).many (Nat.le_succ n) d⟩,
      fun h => h.of_refines fun n => ⟨n, (hP _ _ (Nat.le_succ n)).many (Nat.le_refl n) d⟩⟩
  have hfirst := fun n m h => hP (n + 1) (m + 1) (Nat.succ_le_succ h) c
  rw [← (hmany c).comesTo_succ_iff]
  refine (Run.comesTo_continueWith_iff hfirst (fun v d => growing_round _ _ v (hrest d))
    fun _ => Run.growing_const _).trans ?_
  have hc : Run.Growing fun n => P n c := fun n m h => hP n m h c
  simp only [hc.comesTo_succ_iff, Run.comesTo_round_iff, Run.comesTo_success_iff, hlower]

/-- A repetition with separators is an item and, unless the item or the separator after it fails or
both have consumed nothing, the same repetition from behind the separator. -/
theorem comesTo_separated_iff (hP : Growing P) (hS : Growing S) {confirmed next : κ}
    {o : Outcome κ ParseError (List β)} :
    Run.ComesTo (fun n => (P n).separated (S n) n confirmed next) o ↔
      (∃ v item, Run.ComesTo (fun n => P n next) (.success v item) ∧
        ((∃ w following, Run.ComesTo (fun n => S n item) (.success w following) ∧
          if following == next then o = .success [v] item
          else ∃ o', Run.ComesTo (fun n => (P n).separated (S n) n item following) o' ∧
            o = o'.map fun vs _ => v :: vs) ∨
        ∃ e, Run.ComesTo (fun n => S n item) (.failure e) ∧ o = .success [v] item)) ∨
      ∃ e, Run.ComesTo (fun n => P n next) (.failure e) ∧ o = .success [] confirmed := by
  have hseparated : ∀ confirmed next, Run.Growing fun n => (P n).separated (S n) n confirmed next :=
    fun confirmed next n m h => (hP n m h).separated (hS n m h) h confirmed next
  have hrest : ∀ confirmed next,
      Run.Growing fun n => (P (n + 1)).separated (S (n + 1)) n confirmed next :=
    fun confirmed next n m h =>
      (hP _ _ (by omega)).separated (hS _ _ (by omega)) h confirmed next
  have hlower : ∀ confirmed next o,
      Run.ComesTo (fun n => (P (n + 1)).separated (S (n + 1)) n confirmed next) o ↔
        Run.ComesTo (fun n => (P n).separated (S n) n confirmed next) o := fun confirmed next o =>
    ⟨fun h => h.of_refines fun n => ⟨n + 1, (hP _ _ (Nat.le_refl _)).separated
        (hS _ _ (Nat.le_refl _)) (Nat.le_succ n) confirmed next⟩,
      fun h => h.of_refines fun n => ⟨n, (hP _ _ (Nat.le_succ n)).separated
        (hS _ _ (Nat.le_succ n)) (Nat.le_refl n) confirmed next⟩⟩
  have hfirst := fun n m h => hP (n + 1) (m + 1) (Nat.succ_le_succ h) next
  have hsecond := fun item n m h => hS (n + 1) (m + 1) (Nat.succ_le_succ h) item
  have hp : ∀ c, Run.Growing fun n => P n c := fun c n m h => hP n m h c
  have hs : ∀ c, Run.Growing fun n => S n c := fun c n m h => hS n m h c
  rw [← (hseparated confirmed next).comesTo_succ_iff]
  refine (Run.comesTo_continueWith_iff hfirst (fun v item n m h => ?_)
    fun _ => Run.growing_const _).trans ?_
  · exact (hsecond item n m h).continueWith
      (fun _ following => growing_round _ _ v (hrest item following) n m h)
      fun _ => Run.Refines.refl _
  · have hround : ∀ v item, Run.ComesTo (fun n => (S (n + 1) item).continueWith
        (fun _ following =>
          if following == next then Run.success [v] item
          else ((P (n + 1)).separated (S (n + 1)) n item following).map (v :: ·))
        fun _ => Run.success [v] item) o ↔ _ := fun v item =>
      Run.comesTo_continueWith_iff (hsecond item)
        (fun _ following => growing_round _ _ v (hrest item following))
        fun _ => Run.growing_const _
    simp only [hround, (hp next).comesTo_succ_iff, (hs _).comesTo_succ_iff,
      Run.comesTo_round_iff, Run.comesTo_success_iff, hlower]

theorem outcome?_traced (name : String) (p : Parser κ β) (c : κ) :
    (p.traced name c).outcome? = (p c).outcome? := by
  rcases h : (p c).outcome? with _ | ⟨v, d⟩ | e
  · simp [Parser.traced, Run.continueWith_of_none h]
  · simp [Parser.traced, Run.continueWith_of_success h]
  · simp [Parser.traced, Run.continueWith_of_failure h]

end Parser

namespace Rules
variable {L : Type → Type} {ρ V κ α β γ : Type} [Cursor κ α] {rules : Rules L ρ V}
  {read : {β : Type} → L β → κ → Outcome κ ParseError β} {c : κ}

theorem endsWith_iff {g : Grammar L ρ V β} {o : Outcome κ ParseError β} :
    rules.EndsWith read g c o ↔ Run.ComesTo (fun n => rules.run read n g c) o :=
  ⟨fun ⟨n, hn⟩ => ⟨n, hn n (Nat.le_refl n)⟩, fun ⟨_, hn⟩ => endsWith_of_run hn⟩

theorem endsWith_leaf (l : L β) : rules.EndsWith read (.leaf l) c (read l c) :=
  endsWith_of_run (n := 0) (Run.outcome?_ofOutcome _)

theorem endsWith_succeed (v : β) :
    rules.EndsWith read (.succeed v : Grammar L ρ V β) c (.success v c) :=
  endsWith_of_run (n := 0) rfl

theorem endsWith_reject (message : String) :
    rules.EndsWith read (.reject message : Grammar L ρ V β) c
      (.failure (.rejected message (Cursor.location c))) :=
  endsWith_of_run (n := 0) rfl

theorem endsWith_orElse_iff {p q : Grammar L ρ V β} {o : Outcome κ ParseError β} :
    rules.EndsWith read (p.orElse q) c o ↔
      (∃ v d, rules.EndsWith read p c (.success v d) ∧ o = .success v d) ∨
        ∃ e, rules.EndsWith read p c (.failure e) ∧ rules.EndsWith read q c o := by
  simp only [endsWith_iff]
  exact Parser.comesTo_orElse_iff (run_growing p) (run_growing q)

theorem endsWith_bind_iff {p : Grammar L ρ V β} {k : β → Grammar L ρ V γ}
    {o : Outcome κ ParseError γ} :
    rules.EndsWith read (p.bind k) c o ↔
      (∃ v d, rules.EndsWith read p c (.success v d) ∧ rules.EndsWith read (k v) d o) ∨
        ∃ e, rules.EndsWith read p c (.failure e) ∧ o = .failure e := by
  simp only [endsWith_iff]
  exact Parser.comesTo_bind_iff (run_growing p) fun v => run_growing (k v)

theorem endsWith_defer_iff {label : Option String} {p : Grammar L ρ V β}
    {o : Outcome κ ParseError β} :
    rules.EndsWith read (.defer label p) c o ↔ rules.EndsWith read p c o :=
  Iff.rfl

theorem endsWith_traced_iff {name : String} {p : Grammar L ρ V β} {o : Outcome κ ParseError β} :
    rules.EndsWith read (.traced name p) c o ↔ rules.EndsWith read p c o := by
  simp only [EndsWith, run, Grammar.parser, Parser.outcome?_traced]

theorem endsWith_call_iff {r : ρ} {g : Grammar L ρ V V} (h : rules r = .ok g)
    {o : Outcome κ ParseError V} :
    rules.EndsWith read (.call r) c o ↔ rules.EndsWith read g c o := by
  have hcall : Run.Growing fun n => rules.run read n (.call r) c :=
    fun n m h => run_growing (.call r) n m h c
  rw [endsWith_iff, endsWith_iff, ← hcall.comesTo_succ_iff]
  simp only [run_call_succ h]

theorem endsWith_call_misused {r : ρ} {m : Misuse} (h : rules r = .error m) :
    rules.EndsWith read (.call r) c (.failure (.misuse m)) :=
  endsWith_of_run (n := 1) (by simp [run_call_misused h, Parser.misused])

/-- A repetition is a round of its element and, unless the round fails or leaves off where it
began, the same repetition from there on. -/
theorem endsWith_many_iff {p : Grammar L ρ V β} {o : Outcome κ ParseError (List β)} :
    rules.EndsWith read (.many p) c o ↔
      (∃ v d, rules.EndsWith read p c (.success v d) ∧
        if d == c then o = .success [v] c
        else ∃ o', rules.EndsWith read (.many p) d o' ∧ o = o'.map fun vs _ => v :: vs) ∨
      ∃ e, rules.EndsWith read p c (.failure e) ∧ o = .success [] c := by
  simp only [endsWith_iff]
  exact Parser.comesTo_many_iff (run_growing p)

/-- What a repetition with separators comes to from `next` on, if its last item so far ended at
`confirmed`. -/
def SeparatedEndsWith (rules : Rules L ρ V)
    (read : {β : Type} → L β → κ → Outcome κ ParseError β) (p : Grammar L ρ V β)
    (s : Grammar L ρ V γ) (confirmed next : κ) (o : Outcome κ ParseError (List β)) : Prop :=
  Run.ComesTo (fun n => (rules.run read n p).separated (rules.run read n s) n confirmed next) o

theorem SeparatedEndsWith.unique {p : Grammar L ρ V β} {s : Grammar L ρ V γ} {confirmed next : κ}
    {o o' : Outcome κ ParseError (List β)}
    (h : rules.SeparatedEndsWith read p s confirmed next o)
    (h' : rules.SeparatedEndsWith read p s confirmed next o') : o = o' := by
  refine Run.ComesTo.unique (fun n m hnm => ?_) h h'
  exact (run_growing p n m hnm).separated (run_growing s n m hnm) hnm confirmed next

theorem endsWith_sepBy_iff {p : Grammar L ρ V β} {s : Grammar L ρ V γ}
    {o : Outcome κ ParseError (List β)} :
    rules.EndsWith read (.sepBy p s) c o ↔ rules.SeparatedEndsWith read p s c c o :=
  endsWith_iff

/-- A repetition with separators is an item and, unless the item or the separator after it fails or
both together leave off where the item began, the same repetition from behind the separator. -/
theorem separatedEndsWith_iff {p : Grammar L ρ V β} {s : Grammar L ρ V γ} {confirmed next : κ}
    {o : Outcome κ ParseError (List β)} :
    rules.SeparatedEndsWith read p s confirmed next o ↔
      (∃ v item, rules.EndsWith read p next (.success v item) ∧
        ((∃ w following, rules.EndsWith read s item (.success w following) ∧
          if following == next then o = .success [v] item
          else ∃ o', rules.SeparatedEndsWith read p s item following o' ∧
            o = o'.map fun vs _ => v :: vs) ∨
        ∃ e, rules.EndsWith read s item (.failure e) ∧ o = .success [v] item)) ∨
      ∃ e, rules.EndsWith read p next (.failure e) ∧ o = .success [] confirmed := by
  simp only [endsWith_iff]
  exact Parser.comesTo_separated_iff (run_growing p) (run_growing s)

end Rules
end Descent
