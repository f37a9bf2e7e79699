import Descent.Grammar

/-!
# What grammars run to

The outcomes and the events of grammars, rule by rule and without parsers and budgets. An error
arises where a leaf fails, where a rejection is met and where a rule that is called is missing. No
other rule makes an error, and none looks at one.

A run that ends has its outcome and its log by these rules.
-/
namespace Descent

theorem Run.log_success {κ β : Type} (v : β) (c : κ) : (success v c : Run κ β).log = [] := rfl

/-- The log of a continued run is that of the first part and of what follows it. -/
theorem Run.log_of_continueWith {κ β γ : Type} {r : Run κ β} {f : β → κ → Run κ γ}
    {g : ParseError → Run κ γ} {o : Outcome κ ParseError γ}
    (h : (r.continueWith f g).outcome? = some o) :
    (∃ v c, r.outcome? = some (.success v c) ∧ (f v c).outcome? = some o ∧
        (r.continueWith f g).log = r.log ++ (f v c).log) ∨
      ∃ e, r.outcome? = some (.failure e) ∧ (g e).outcome? = some o ∧
        (r.continueWith f g).log = r.log ++ (g e).log := by
  obtain ⟨v, c, hr, ho⟩ | ⟨e, hr, ho⟩ := ends_of_continueWith h
  · exact Or.inl ⟨v, c, hr, ho, by rw [continueWith_of_success hr, log_after]⟩
  · exact Or.inr ⟨e, hr, ho, by rw [continueWith_of_failure hr, log_after]⟩

variable {L : Type → Type} {ρ V κ α : Type} [Cursor κ α]

namespace Rules

section
variable (rules : Rules L ρ V) (read : {β : Type} → L β → κ → Outcome κ ParseError β)

/-- At the cursor, the grammar runs to the outcome, with the events on the way. -/
inductive RunsTo :
    {β : Type} → Grammar L ρ V β → κ → List Event → Outcome κ ParseError β → Prop where
  | leaf {β : Type} {l : L β} {c d : κ} {v : β} (h : read l c = .success v d) :
    RunsTo (.leaf l) c [] (.success v d)
  | leafFails {β : Type} {l : L β} {c : κ} {e : ParseError} (h : read l c = .failure e) :
    RunsTo (.leaf l) c [.raised e] (.failure e)
  | succeed {β : Type} {v : β} {c : κ} : RunsTo (.succeed v) c [] (.success v c)
  | reject {β : Type} {message : String} {c : κ} :
    RunsTo (.reject message : Grammar L ρ V β) c
      [.raised (.rejected message (Cursor.location c))]
      (.failure (.rejected message (Cursor.location c)))
  | first {β : Type} {p q : Grammar L ρ V β} {c d : κ} {v : β} {log : List Event}
    (hp : RunsTo p c log (.success v d)) : RunsTo (.orElse p q) c log (.success v d)
  | second {β : Type} {p q : Grammar L ρ V β} {c : κ} {e : ParseError} {log more : List Event}
    {o : Outcome κ ParseError β} (hp : RunsTo p c log (.failure e)) (hq : RunsTo q c more o) :
    RunsTo (.orElse p q) c (log ++ more) o
  | bind {β γ : Type} {p : Grammar L ρ V β} {k : β → Grammar L ρ V γ} {c d : κ} {v : β}
    {log more : List Event} {o : Outcome κ ParseError γ} (hp : RunsTo p c log (.success v d))
    (hk : RunsTo (k v) d more o) : RunsTo (.bind p k) c (log ++ more) o
  | bindFails {β γ : Type} {p : Grammar L ρ V β} {k : β → Grammar L ρ V γ} {c : κ} {e : ParseError}
    {log : List Event} (hp : RunsTo p c log (.failure e)) :
    RunsTo (.bind p k) c log (.failure e)
  /-- Repetitions end where a round fails, and where one leaves the cursor as it was. -/
  | manyEnd {β : Type} {p : Grammar L ρ V β} {c : κ} {e : ParseError} {log : List Event}
    (hp : RunsTo p c log (.failure e)) : RunsTo (.many p) c log (.success [] c)
  | manyStay {β : Type} {p : Grammar L ρ V β} {c d : κ} {v : β} {log : List Event}
    (hp : RunsTo p c log (.success v d)) (hd : (d == c) = true) :
    RunsTo (.many p) c log (.success [v] c)
  | manyMore {β : Type} {p : Grammar L ρ V β} {c d rest : κ} {v : β} {vs : List β}
    {log more : List Event} (hp : RunsTo p c log (.success v d)) (hd : (d == c) = false)
    (hrest : RunsTo (.many p) d more (.success vs rest)) :
    RunsTo (.many p) c (log ++ more) (.success (v :: vs) rest)
  /-- With separators, repetitions end after the last item, and at the start if there is none. -/
  | sepByNone {β γ : Type} {p : Grammar L ρ V β} {s : Grammar L ρ V γ} {c : κ} {e : ParseError}
    {log : List Event} (hp : RunsTo p c log (.failure e)) :
    RunsTo (.sepBy p s) c log (.success [] c)
  | sepByEnd {β γ : Type} {p : Grammar L ρ V β} {s : Grammar L ρ V γ} {c item : κ} {v : β}
    {e : ParseError} {log between : List Event} (hp : RunsTo p c log (.success v item))
    (hs : RunsTo s item between (.failure e)) :
    RunsTo (.sepBy p s) c (log ++ between) (.success [v] item)
  | sepByStay {β γ : Type} {p : Grammar L ρ V β} {s : Grammar L ρ V γ} {c item following : κ}
    {v : β} {w : γ} {log between : List Event} (hp : RunsTo p c log (.success v item))
    (hs : RunsTo s item between (.success w following)) (hd : (following == c) = true) :
    RunsTo (.sepBy p s) c (log ++ between) (.success [v] item)
  | sepByMore {β γ : Type} {p : Grammar L ρ V β} {s : Grammar L ρ V γ}
    {c item following rest : κ} {v : β} {w : γ} {vs : List β} {log between more : List Event}
    (hp : RunsTo p c log (.success v item))
    (hs : RunsTo s item between (.success w following)) (hd : (following == c) = false)
    (hrest : RunsTo (.sepBy p s) following more (.success vs rest)) :
    RunsTo (.sepBy p s) c (log ++ (between ++ more))
      (.success (v :: vs) (if vs.isEmpty then item else rest))
  | defer {β : Type} {label : Option String} {p : Grammar L ρ V β} {c : κ} {log : List Event}
    {o : Outcome κ ParseError β} (hp : RunsTo p c log o) :
    RunsTo (.defer label p) c (label.toList.map Event.thunk ++ log) o
  | traced {β : Type} {name : String} {p : Grammar L ρ V β} {c d : κ} {v : β} {log : List Event}
    (hp : RunsTo p c log (.success v d)) :
    RunsTo (.traced name p) c
      (.entered name (Cursor.position c) :: (log ++ [.left name (Cursor.position d)]))
      (.success v d)
  | tracedFails {β : Type} {name : String} {p : Grammar L ρ V β} {c : κ} {e : ParseError}
    {log : List Event} (hp : RunsTo p c log (.failure e)) :
    RunsTo (.traced name p) c (.entered name (Cursor.position c) :: (log ++ [.gaveUp name]))
      (.failure e)
  | call {r : ρ} {body : Grammar L ρ V V} {c : κ} {log : List Event} {o : Outcome κ ParseError V}
    (hr : rules r = .ok body) (hbody : RunsTo body c log o) : RunsTo (.call r) c log o
  | missing {r : ρ} {m : Misuse} {c : κ} (hr : rules r = .error m) :
    RunsTo (.call r) c [.raised (.misuse m)] (.failure (.misuse m))

end

/-! ### Runs -/

/-- The runs of the parser end as the rules for the grammar say. -/
def Runs (rules : Rules L ρ V) (read : {β : Type} → L β → κ → Outcome κ ParseError β) {β : Type}
    (g : Grammar L ρ V β) (f : Parser κ β) : Prop :=
  ∀ c o, (f c).outcome? = some o → RunsTo rules read g c (f c).log o

namespace Runs
variable {rules : Rules L ρ V} {read : {β : Type} → L β → κ → Outcome κ ParseError β}
  {β γ : Type} {p q : Grammar L ρ V β} {f f' : Parser κ β}

theorem leaf (l : L β) : Runs rules read (.leaf l) fun c => Run.ofOutcome (read l c) := by
  intro c o ho
  dsimp only at ho ⊢
  cases h : read l c with
  | success v d =>
    rw [h] at ho
    obtain rfl := Option.some.inj ho
    exact .leaf h
  | failure e =>
    rw [h] at ho
    obtain rfl := Option.some.inj ho
    exact .leafFails h

theorem succeed (v : β) : Runs rules read (.succeed v) (Parser.succeed v) := by
  intro c o ho
  obtain rfl := Option.some.inj ho
  exact .succeed

theorem reject (message : String) :
    Runs rules read (.reject message) (Parser.reject message : Parser κ β) := by
  intro c o ho
  obtain rfl := Option.some.inj ho
  exact .reject

theorem orElse (hp : Runs rules read p f) (hq : Runs rules read q f') :
    Runs rules read (.orElse p q) (f.orElse f') := by
  intro c o ho
  obtain ⟨v, d, hf, ho, hlog⟩ | ⟨e, hf, ho, hlog⟩ := Run.log_of_continueWith ho
  · obtain rfl := Option.some.inj ho
    exact hlog ▸ (List.append_nil _).symm ▸ .first (hp c _ hf)
  · exact hlog ▸ .second (hp c _ hf) (hq c o ho)

theorem bind {k : β → Grammar L ρ V γ} {h : β → Parser κ γ} (hp : Runs rules read p f)
    (hk : ∀ v, Runs rules read (k v) (h v)) : Runs rules read (.bind p k) (f.bind h) := by
  intro c o ho
  obtain ⟨v, d, hf, ho, hlog⟩ | ⟨e, hf, ho, hlog⟩ := Run.log_of_continueWith ho
  · exact hlog ▸ .bind (hp c _ hf) (hk v d o ho)
  · obtain rfl := Option.some.inj ho
    exact hlog ▸ (List.append_nil _).symm ▸ .bindFails (hp c _ hf)

/-- By induction on the budget, of which every round takes one. -/
theorem many_success (hp : Runs rules read p f) {budget : Nat} {c : κ}
    {o : Outcome κ ParseError (List β)} (ho : (f.many budget c).outcome? = some o) :
    ∃ vs rest, o = .success vs rest ∧ RunsTo rules read (.many p) c (f.many budget c).log o := by
  induction budget generalizing c o with
  | zero => cases ho
  | succ budget ih =>
    rw [Parser.many] at ho ⊢
    obtain ⟨v, d, hf, ho, hlog⟩ | ⟨e, hf, ho, hlog⟩ := Run.log_of_continueWith ho
    · rw [hlog]
      split at ho
      · next hd =>
        obtain rfl := Option.some.inj ho
        rw [if_pos hd, Run.log_success, List.append_nil]
        exact ⟨_, _, rfl, .manyStay (hp c _ hf) hd⟩
      · next hd =>
        rw [if_neg hd]
        obtain ⟨vs, rest, hmany, ho, hrest⟩ | ⟨e, hmany, -⟩ := Run.log_of_continueWith ho
        · obtain ⟨-, -, -, hmore⟩ := ih hmany
          obtain rfl := Option.some.inj ho
          rw [Run.map, Run.andThen, hrest, Run.log_success, List.append_nil]
          exact ⟨_, _, rfl, .manyMore (hp c _ hf) (Bool.eq_false_iff.mpr hd) hmore⟩
        · obtain ⟨_, _, hfailure, -⟩ := ih hmany
          cases hfailure
    · obtain rfl := Option.some.inj ho
      rw [hlog, Run.log_success, List.append_nil]
      exact ⟨_, _, rfl, .manyEnd (hp c _ hf)⟩

theorem many (hp : Runs rules read p f) (budget : Nat) :
    Runs rules read (.many p) (f.many budget) := by
  intro c o ho
  obtain ⟨-, -, -, h⟩ := hp.many_success ho
  exact h

/-- The rounds from `next` on are those of a repetition that starts there, but where no item follows
they leave off at the end of the item before. -/
theorem separated_success {s : Grammar L ρ V γ} {h : Parser κ γ} (hp : Runs rules read p f)
    (hs : Runs rules read s h) {budget : Nat} {confirmed next : κ}
    {o : Outcome κ ParseError (List β)}
    (ho : (f.separated h budget confirmed next).outcome? = some o) :
    ∃ vs rest, o = .success vs rest ∧ (vs = [] → rest = confirmed) ∧
      RunsTo rules read (.sepBy p s) next (f.separated h budget confirmed next).log
        (.success vs (if vs.isEmpty then next else rest)) := by
  induction budget generalizing confirmed next o with
  | zero => cases ho
  | succ budget ih =>
    rw [Parser.separated] at ho ⊢
    obtain ⟨v, item, hf, ho, hlog⟩ | ⟨e, hf, ho, hlog⟩ := Run.log_of_continueWith ho
    · rw [hlog]
      obtain ⟨w, following, hh, ho, hlog⟩ | ⟨e, hh, ho, hlog⟩ :=
        Run.log_of_continueWith ho
      · rw [hlog]
        split at ho
        · next hd =>
          obtain rfl := Option.some.inj ho
          rw [if_pos hd, Run.log_success, List.append_nil]
          exact ⟨_, _, rfl, by simp, .sepByStay (hp next _ hf) (hs item _ hh) hd⟩
        · next hd =>
          rw [if_neg hd]
          obtain ⟨vs, rest, hmore, ho, hrest⟩ | ⟨e, hmore, -⟩ := Run.log_of_continueWith ho
          · obtain ⟨vs', rest', hsuccess, hnone, hruns⟩ := ih hmore
            obtain ⟨rfl, rfl⟩ := Outcome.success.inj hsuccess
            obtain rfl := Option.some.inj ho
            rw [Run.map, Run.andThen, hrest, Run.log_success, List.append_nil]
            refine ⟨_, _, rfl, by simp, ?_⟩
            have hgo := RunsTo.sepByMore (hp next _ hf) (hs item _ hh)
              (Bool.eq_false_iff.mpr hd) hruns
            cases vs with
            | nil => rwa [hnone rfl]
            | cons => exact hgo
          · obtain ⟨_, _, hfailure, -⟩ := ih hmore
            cases hfailure
      · obtain rfl := Option.some.inj ho
        rw [hlog, Run.log_success, List.append_nil]
        exact ⟨_, _, rfl, by simp, .sepByEnd (hp next _ hf) (hs item _ hh)⟩
    · obtain rfl := Option.some.inj ho
      rw [hlog, Run.log_success, List.append_nil]
      exact ⟨_, _, rfl, fun _ => rfl, .sepByNone (hp next _ hf)⟩

theorem sepBy {s : Grammar L ρ V γ} {h : Parser κ γ} (hp : Runs rules read p f)
    (hs : Runs rules read s h) (budget : Nat) :
    Runs rules read (.sepBy p s) (f.sepBy h budget) := by
  intro c o ho
  obtain ⟨vs, rest, rfl, hnone, hruns⟩ := hp.separated_success hs ho
  cases vs with
  | nil => rwa [hnone rfl]
  | cons => exact hruns

theorem defer (hp : Runs rules read p f) (label : Option String) :
    Runs rules read (.defer label p) (f.defer label) :=
  fun c o ho => .defer (hp c o ho)

theorem traced (hp : Runs rules read p f) (name : String) :
    Runs rules read (.traced name p) (f.traced name) := by
  intro c o ho
  rw [Parser.traced, Run.outcome?_after] at ho
  rw [Parser.traced, Run.log_after]
  obtain ⟨v, d, hf, ho, hlog⟩ | ⟨e, hf, ho, hlog⟩ := Run.log_of_continueWith ho
  · obtain rfl := Option.some.inj ho
    exact hlog ▸ .traced (hp c _ hf)
  · obtain rfl := Option.some.inj ho
    exact hlog ▸ .tracedFails (hp c _ hf)

end Runs

variable {rules : Rules L ρ V} {read : {β : Type} → L β → κ → Outcome κ ParseError β}

theorem runs_grammar {callee : ρ → Parser κ V} (hcallee : ∀ r, Runs rules read (.call r) (callee r))
    (budget : Nat) {β : Type} (g : Grammar L ρ V β) :
    Runs rules read g (g.parser read callee budget) := by
  induction g with
  | leaf l => exact .leaf l
  | succeed v => exact .succeed v
  | reject message => exact .reject message
  | orElse p q ihp ihq => exact ihp.orElse ihq
  | bind p k ihp ihk => exact ihp.bind ihk
  | many p ih => exact ih.many budget
  | sepBy p s ihp ihs => exact ihp.sepBy ihs budget
  | defer label p ih => exact ih.defer label
  | traced name p ih => exact ih.traced name
  | call r => exact hcallee r

theorem runs_rule (budget : Nat) (r : ρ) :
    Runs rules read (.call r) (rules.parser read budget r) := by
  induction budget generalizing r with
  | zero =>
    intro c o ho
    cases ho
  | succ budget ih =>
    rw [Rules.parser]
    split
    · next body hr => exact fun c o ho => .call hr (runs_grammar ih budget body c o ho)
    · next m hr =>
      intro c o ho
      obtain rfl := Option.some.inj ho
      exact .missing hr

/-- A run that ends has its outcome and its log by the rules. -/
theorem runsTo_of_run {budget : Nat} {β : Type} {g : Grammar L ρ V β} {c : κ}
    {o : Outcome κ ParseError β} (h : (rules.run read budget g c).outcome? = some o) :
    RunsTo rules read g c (rules.run read budget g c).log o :=
  runs_grammar (runs_rule budget) budget g c o h

end Rules
end Descent
