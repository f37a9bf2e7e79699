import Mathlib.Data.List.Forall2
import Descent.Forward.Command
import Descent.Proofs.Grammar.Context

/-!
# Thunks

The second part of a choice or of a sequence, and any part that is postponed, is given as a thunk,
and a call of the thunk can be noted under a label. A thunk that a run has not called has no part in
it: with another one in its place, the run is the same, events included. A call is noted right
behind the events of the first part, which has failed or succeeded by then, and right before the
events of the thunk itself. Nothing but a parse has any events.
-/
namespace Descent

section
variable {κ β γ : Type}

theorem Run.isPrefix_log_continueWith (r : Run κ β) (f : β → κ → Run κ γ)
    (g : ParseError → Run κ γ) : r.log <+: (r.continueWith f g).log := by
  rcases hr : r.outcome? with _ | ⟨v, c⟩ | e
  · simp [continueWith_of_none hr]
  · rw [continueWith_of_success hr]
    exact List.prefix_append _ _
  · rw [continueWith_of_failure hr]
    exact List.prefix_append _ _

/-- `s` stands in for `r`, unless `event` is among the events of `r`. -/
def Run.RefinesUnless (event : Event) (s r : Run κ β) : Prop :=
  event ∈ r.log ∨ s.Refines r

theorem Run.refinesUnless_congruence (event : Event) :
    Congruence (κ := κ) (fun _ => True) (RefinesUnless event) where
  success _ _ := Or.inr (Refines.refl _)
  failure _ := Or.inr (Refines.refl _)
  exhausted _ := Or.inr (refines_exhausted _)
  after _ h := h.imp (List.mem_append_right _) fun h => h.after _
  continueWith {_ _ s r f' f g' g} h hf hg := by
    rcases h with hevent | hspent | rfl
    · exact Or.inl ((isPrefix_log_continueWith r f g).subset hevent)
    · exact Or.inr (Or.inl (by rw [continueWith_of_none hspent]))
    · rcases hs : s.outcome? with _ | ⟨v, c⟩ | e
      · exact Or.inr (Or.inl (by rw [continueWith_of_none hs]))
      · rw [continueWith_of_success hs, continueWith_of_success hs]
        exact (hf v c).imp (List.mem_append_right _) fun h => h.after _
      · rw [continueWith_of_failure hs, continueWith_of_failure hs]
        exact (hg e).imp (List.mem_append_right _) fun h => h.after _

end

/-! ## Two fillings of a hole -/

section
variable {L : Type → Type} {ρ V η κ α β : Type} [Cursor κ α] {A : String → Prop}
  {Rel : {β : Type} → Run κ β → Run κ β → Prop}
  {read : {β : Type} → L β → κ → Outcome κ ParseError β} {m n : Nat} {p' p : Grammar L ρ V η}

/-- Some grammar of the system notes calls under the label. -/
def Rules.Carries (label : String) (rules : Rules L ρ V) : Prop :=
  ∃ r g, rules r = .ok g ∧ g.Carries label

namespace Run.Congruence
variable (h : Congruence A Rel)
include h

theorem fill {callee' callee : ρ → Parser κ V}
    (hcallee : ∀ r, (callee' r).Related Rel (callee r)) (hnm : n ≤ m)
    (hhole : (p'.parser read callee' m).Related Rel (p.parser read callee n))
    (g : Grammar (Holed L η) ρ V β) (hg : ∀ l, g.Carries l → A l) :
    ((g.fill p').parser read callee' m).Related Rel ((g.fill p).parser read callee n) := by
  induction g with
  | leaf l =>
    cases l with
    | solid l => exact fun _ => h.ofOutcome _
    | hole hη =>
      cases hη
      exact hhole
  | succeed v => exact fun _ => h.success _ _
  | reject message => exact fun _ => h.raise _
  | orElse g g' ih ih' =>
    exact h.orElse (ih fun l hl => hg l (.inl hl)) (ih' fun l hl => hg l (.inr hl))
  | bind g k ih ihk =>
    exact h.bind (ih fun l hl => hg l (.inl hl)) fun v => ihk v fun l hl => hg l (.inr ⟨v, hl⟩)
  | many g ih => exact h.many (ih hg) hnm
  | sepBy g s ih ihs =>
    have hp := ih fun l hl => hg l (.inl hl)
    have hs := ihs fun l hl => hg l (.inr hl)
    exact fun c => h.separated hp hs hnm c c
  | defer label g ih =>
    exact h.defer (fun l hl => hg l (.inl hl)) (ih fun l hl => hg l (.inr hl))
  | traced name g ih => exact h.traced (ih hg) name
  | call r => exact hcallee r

variable {rules : Rules (Holed L η) ρ V} (hrules : ∀ l, rules.Carries l → A l)
  (hhole : ∀ {n m}, n ≤ m →
    (∀ r, ((rules.fill p').parser read m r).Related Rel ((rules.fill p).parser read n r)) →
    ((rules.fill p').run read m p').Related Rel ((rules.fill p).run read n p))
include hrules hhole

/-- The hole may be reached through any number of calls: each lowers the budget. -/
theorem fill_rule (hnm : n ≤ m) (r : ρ) :
    ((rules.fill p').parser read m r).Related Rel ((rules.fill p).parser read n r) := by
  induction n generalizing m r with
  | zero => exact fun _ => h.exhausted _
  | succ n ih =>
    obtain ⟨m, rfl⟩ : ∃ k, m = k + 1 := ⟨m - 1, by omega⟩
    have hle : n ≤ m := Nat.le_of_succ_le_succ hnm
    have hcallee := ih hle
    rw [Rules.parser, Rules.parser, Rules.fill, Rules.fill]
    cases hr : rules r with
    | ok g => exact h.fill hcallee hle (hhole hle hcallee) g fun l hl => hrules l ⟨r, g, hr, hl⟩
    | error e => exact fun _ => h.raise _

theorem fill_run (hnm : n ≤ m) (g : Grammar (Holed L η) ρ V β) (hg : ∀ l, g.Carries l → A l) :
    ((rules.fill p').run read m (g.fill p')).Related Rel
      ((rules.fill p).run read n (g.fill p)) :=
  have hcallee := h.fill_rule hrules hhole hnm
  h.fill hcallee hnm (hhole hnm hcallee) g hg

end Run.Congruence
end

/-! ## Calls in a log -/

/-- An event in two logs, one behind the other, is an event in one of them. -/
theorem Event.split_append {log log' before after : List Event} {event : Event}
    (h : log ++ log' = before ++ event :: after) :
    (∃ between, log = before ++ event :: between ∧ after = between ++ log') ∨
      ∃ between, before = log ++ between ∧ log' = between ++ event :: after := by
  rcases List.append_eq_append_iff.mp h with hright | ⟨between, hlog, hafter⟩
  · exact Or.inr hright
  · cases between with
    | nil => exact Or.inr ⟨[], by simpa using hlog.symm, hafter.symm⟩
    | cons first between =>
      obtain ⟨rfl, rfl⟩ := List.cons.inj hafter
      exact Or.inl ⟨between, hlog, rfl⟩

/-- `T` holds of the events before and after each call that is noted under the label. -/
def CallsWithin (T : List Event → List Event → Prop) (label : String) (log : List Event) : Prop :=
  ∀ before after, log = before ++ .thunk label :: after → T before after

/-- More events before and after make no difference to `T`. -/
def Spreads (T : List Event → List Event → Prop) : Prop :=
  ∀ before after earlier later, T before after → T (earlier ++ before) (after ++ later)

namespace CallsWithin
variable {T : List Event → List Event → Prop} {label : String} {log log' : List Event}

theorem of_not_mem (h : .thunk label ∉ log) : CallsWithin T label log := by
  rintro before after rfl
  exact absurd (List.mem_append_right before List.mem_cons_self) h

theorem append (hT : Spreads T) (h : CallsWithin T label log) (h' : CallsWithin T label log') :
    CallsWithin T label (log ++ log') := by
  intro before after heq
  rcases Event.split_append heq with ⟨between, hlog, rfl⟩ | ⟨between, rfl, hlog'⟩
  · exact hT before between [] log' (h before between hlog)
  · simpa using hT between after log [] (h' between after hlog')

theorem call (hT : Spreads T) (h : CallsWithin T label log) (h' : CallsWithin T label log')
    (hcall : T log log') : CallsWithin T label (log ++ .thunk label :: log') := by
  intro before after heq
  rcases Event.split_append heq with ⟨between, hlog, rfl⟩ | ⟨between, rfl, htail⟩
  · exact hT before between [] _ (h before between hlog)
  · cases between with
    | nil =>
      obtain ⟨-, rfl⟩ := List.cons.inj htail
      simpa using hcall
    | cons first between =>
      obtain ⟨rfl, hlog'⟩ := List.cons.inj htail
      have hmore := hT between after (log ++ [.thunk label]) [] (h' between after hlog')
      rwa [List.append_nil, List.append_assoc] at hmore

/-- What holds around the calls of two runs holds around those of one that goes on with the
other. -/
theorem congruence {κ : Type} (hT : Spreads T) :
    Run.Congruence (κ := κ) (· ≠ label) fun _ r => CallsWithin T label r.log where
  success _ _ := of_not_mem List.not_mem_nil
  failure _ := of_not_mem List.not_mem_nil
  exhausted _ := of_not_mem List.not_mem_nil
  after hlog h := (of_not_mem fun hmem => hlog _ hmem rfl).append hT h
  continueWith {_ _ _ r _ f _ g} h hf hg := by
    rcases hr : r.outcome? with _ | ⟨v, c⟩ | e
    · rwa [Run.continueWith_of_none hr]
    · rw [Run.continueWith_of_success hr]
      exact h.append hT (hf v c)
    · rw [Run.continueWith_of_failure hr]
      exact h.append hT (hg e)

end CallsWithin

/-! ## Thunks -/

/-- Where a thunk for a grammar that yields `η` stands: as the alternative of a choice, as the
continuation of a sequence, or by itself. -/
inductive ThunkSite (L : Type → Type) (ρ V η : Type) where
  | alternative (p : Grammar L ρ V η)
  | continuation {γ : Type} (p : Grammar L ρ V γ)
  | postponed

namespace ThunkSite
variable {L : Type → Type} {ρ V η κ α β : Type} [Cursor κ α]

/-- The grammar with the thunk `q`, whose calls are noted under the label. -/
def node (label : String) (q : Grammar L ρ V η) : ThunkSite L ρ V η → Grammar L ρ V η
  | alternative p => p.orElse (.defer (some label) q)
  | continuation p => p.andThen (.defer (some label) q)
  | postponed => .defer (some label) q

/-- The part that is no thunk notes calls under the label. -/
def Carries (label : String) : ThunkSite L ρ V η → Prop
  | alternative p => p.Carries label
  | continuation p => p.Carries label
  | postponed => False

section
variable (rules : Rules L ρ V) (read : {β : Type} → L β → κ → Outcome κ ParseError β)

/-- The events of the part that is no thunk, run at `c`. -/
def firstLog (n : Nat) (c : κ) : ThunkSite L ρ V η → List Event
  | alternative p => (rules.run read n p c).log
  | continuation p => (rules.run read n p c).log
  | postponed => []

/-- At `c`, the site calls the thunk, to run at `d`: an alternative where the first part has failed,
and a continuation at the remainder where it has succeeded. -/
def LeadsTo (n : Nat) (c d : κ) : ThunkSite L ρ V η → Prop
  | alternative p => d = c ∧ ∃ e, (rules.run read n p c).outcome? = some (.failure e)
  | continuation p => ∃ v, (rules.run read n p c).outcome? = some (.success v d)
  | postponed => d = c

/-- A call of the thunk `q` stands between these events: right behind those of the first part, which
led to it, and right before those of `q`. -/
def CalledBetween (q : Grammar L ρ V η) (site : ThunkSite L ρ V η) (before after : List Event) :
    Prop :=
  ∃ n c d, site.LeadsTo rules read n c d ∧ site.firstLog rules read n c <:+ before ∧
    (rules.run read n q d).log <+: after

end

variable {rules : Rules L ρ V} {read : {β : Type} → L β → κ → Outcome κ ParseError β}
  {site : ThunkSite L ρ V η} {q : Grammar L ρ V η} {label : String}

theorem calledBetween_spreads : Spreads (site.CalledBetween rules read q) := by
  rintro before after earlier later ⟨n, c, d, hleads, hbefore, hafter⟩
  exact ⟨n, c, d, hleads, hbefore.trans (List.suffix_append _ _),
    hafter.trans (List.prefix_append _ _)⟩

/-- If the first part is traced, the note that it gave up stands right before the call of an
alternative. -/
theorem CalledBetween.gaveUp {name : String} {p : Grammar L ρ V η} {before after : List Event}
    (h : (alternative (.traced name p)).CalledBetween rules read q before after) :
    [.gaveUp name] <:+ before := by
  obtain ⟨n, c, d, ⟨-, e, he⟩, hbefore, -⟩ := h
  refine List.IsSuffix.trans ?_ hbefore
  have hrun : rules.run read n (.traced name p) c = (rules.run read n p).traced name c := rfl
  rw [hrun, Parser.traced, Run.outcome?_after] at he
  rw [firstLog, hrun, Parser.traced, Run.log_after]
  rcases Run.ends_of_continueWith he with ⟨v, rest, -, hs⟩ | ⟨e', hp, -⟩
  · cases hs
  · rw [Run.continueWith_of_failure hp]
    exact (List.suffix_append _ _).trans (List.suffix_append _ _)

/-- If the first part is traced, the note of where it left off stands right before the call of a
continuation. -/
theorem CalledBetween.left {γ : Type} {name : String} {p : Grammar L ρ V γ}
    {before after : List Event}
    (h : (continuation (.traced name p)).CalledBetween rules read q before after) :
    ∃ position, [.left name position] <:+ before := by
  obtain ⟨n, c, d, ⟨v, hv⟩, hbefore, -⟩ := h
  refine ⟨Cursor.position d, List.IsSuffix.trans ?_ hbefore⟩
  have hrun : rules.run read n (.traced name p) c = (rules.run read n p).traced name c := rfl
  rw [hrun, Parser.traced, Run.outcome?_after] at hv
  rw [firstLog, hrun, Parser.traced, Run.log_after]
  rcases Run.ends_of_continueWith hv with ⟨w, rest, hp, hs⟩ | ⟨e, -, hs⟩
  · obtain ⟨-, rfl⟩ := Run.success_inj hs
    rw [Run.continueWith_of_success hp]
    exact (List.suffix_append _ _).trans (List.suffix_append _ _)
  · cases hs

/-- A run at a site is the run of the first part, or goes on with a call of the thunk. -/
theorem log_run_node (n : Nat) (c : κ) :
    (rules.run read n (site.node label q) c).log = site.firstLog rules read n c ∨
      ∃ d, site.LeadsTo rules read n c d ∧ (rules.run read n (site.node label q) c).log =
        site.firstLog rules read n c ++ .thunk label :: (rules.run read n q d).log := by
  cases site with
  | alternative p =>
    have hnode : rules.run read n ((alternative p).node label q) c =
        (rules.run read n p c).orElse fun _ => (rules.run read n q c).after [.thunk label] := rfl
    rw [hnode, Run.orElse, firstLog]
    rcases hp : (rules.run read n p c).outcome? with _ | ⟨v, d⟩ | e
    · rw [Run.continueWith_of_none hp]
      exact Or.inl rfl
    · rw [Run.continueWith_of_success hp]
      exact Or.inl (List.append_nil _)
    · rw [Run.continueWith_of_failure hp]
      exact Or.inr ⟨c, ⟨rfl, e, hp⟩, rfl⟩
  | continuation p =>
    have hnode : rules.run read n ((continuation p).node label q) c =
        (rules.run read n p c).andThen fun _ d => (rules.run read n q d).after [.thunk label] := rfl
    rw [hnode, Run.andThen, firstLog]
    rcases hp : (rules.run read n p c).outcome? with _ | ⟨v, d⟩ | e
    · rw [Run.continueWith_of_none hp]
      exact Or.inl rfl
    · rw [Run.continueWith_of_success hp]
      exact Or.inr ⟨d, ⟨v, hp⟩, rfl⟩
    · rw [Run.continueWith_of_failure hp]
      exact Or.inl (List.append_nil _)
  | postponed => exact Or.inr ⟨c, rfl, rfl⟩

/-- Another thunk at the same site runs alike, unless a call is noted. -/
theorem run_node_refinesUnless {rules' : Rules L ρ V} {q' : Grammar L ρ V η} {n m : Nat}
    (hnm : n ≤ m)
    (hcallee : ∀ r, (rules'.parser read m r).Related (Run.RefinesUnless (.thunk label))
      (rules.parser read n r)) :
    (rules'.run read m (site.node label q')).Related (Run.RefinesUnless (.thunk label))
      (rules.run read n (site.node label q)) := by
  have h := Run.refinesUnless_congruence (κ := κ) (.thunk label)
  have hthunk : ((q'.parser read (rules'.parser read m) m).defer (some label)).Related
      (Run.RefinesUnless (.thunk label))
      ((q.parser read (rules.parser read n) n).defer (some label)) :=
    fun c => Or.inl List.mem_cons_self
  cases site with
  | alternative p => exact h.orElse (h.parser hcallee hnm p fun _ _ => trivial) hthunk
  | continuation p => exact h.bind (h.parser hcallee hnm p fun _ _ => trivial) fun _ => hthunk
  | postponed => exact hthunk

/-- A site notes a call between the run of its first part and that of the thunk. -/
theorem callsWithin_run_node (hsite : ¬ site.Carries label) (hq : ¬ q.Carries label) {n : Nat}
    (hcallee : ∀ r c, CallsWithin (site.CalledBetween rules read q) label
      (rules.parser read n r c).log) (c : κ) :
    CallsWithin (site.CalledBetween rules read q) label
      (rules.run read n (site.node label q) c).log := by
  have hT : Spreads (site.CalledBetween rules read q) := calledBetween_spreads
  have hcalled : ∀ r, (rules.parser read n r).Related
      (fun _ s => CallsWithin (site.CalledBetween rules read q) label s.log)
      (rules.parser read n r) := hcallee
  have hrun : ∀ {β : Type} (p : Grammar L ρ V β), ¬ p.Carries label → ∀ c,
      CallsWithin (site.CalledBetween rules read q) label (rules.run read n p c).log := fun p hp =>
    (CallsWithin.congruence hT).parser hcalled (Nat.le_refl n) p fun l hl he => hp (he ▸ hl)
  have hfirst : CallsWithin (site.CalledBetween rules read q) label
      (site.firstLog rules read n c) := by
    cases site with
    | alternative p => exact hrun p hsite c
    | continuation p => exact hrun p hsite c
    | postponed => exact .of_not_mem List.not_mem_nil
  rcases log_run_node n c with hlog | ⟨d, hleads, hlog⟩
  · rwa [hlog]
  · rw [hlog]
    exact hfirst.call hT (hrun q hq d) ⟨n, c, d, hleads, List.suffix_rfl, List.prefix_rfl⟩

variable {rules : Rules (Holed L η) ρ V} {g : Grammar (Holed L η) ρ V β} {n m : Nat}

/-- The thunk has no part in a run that does not call it. -/
theorem run_refinesUnless {q' : Grammar L ρ V η} (hnm : n ≤ m) :
    ((rules.fill (site.node label q')).run read m (g.fill (site.node label q'))).Related
      (Run.RefinesUnless (.thunk label))
      ((rules.fill (site.node label q)).run read n (g.fill (site.node label q))) :=
  (Run.refinesUnless_congruence _).fill_run (fun _ _ => trivial) run_node_refinesUnless hnm g
    fun _ _ => trivial

/-- If nothing else bears its label, every call of the thunk is one of its site. -/
theorem callsWithin_run (hsite : ¬ site.Carries label) (hq : ¬ q.Carries label)
    (hrules : ¬ rules.Carries label) (hg : ¬ g.Carries label) (c : κ) :
    CallsWithin (site.CalledBetween (rules.fill (site.node label q)) read q) label
      ((rules.fill (site.node label q)).run read n (g.fill (site.node label q)) c).log := by
  have hT : Spreads (site.CalledBetween (rules.fill (site.node label q)) read q) :=
    calledBetween_spreads
  have hother : ∀ l, rules.Carries l → l ≠ label := by
    rintro l hl rfl
    exact hrules hl
  have hother' : ∀ l, g.Carries l → l ≠ label := by
    rintro l hl rfl
    exact hg hl
  have hruns : ((rules.fill (site.node label q)).run read n (g.fill (site.node label q))).Related
      (fun _ s => CallsWithin (site.CalledBetween (rules.fill (site.node label q)) read q) label
        s.log)
      ((rules.fill (site.node label q)).run read n (g.fill (site.node label q))) :=
    (CallsWithin.congruence hT).fill_run hother
      (fun _ hcallee => callsWithin_run_node hsite hq hcallee) (Nat.le_refl n) g hother'
  exact hruns c

end ThunkSite

/-! ## Programs -/

namespace Forward
variable {L : Type → Type} {ρ V κ α : Type} [Cursor κ α]

/-- The events of what was done for the answer. -/
def Answer.events : Answer V κ → List Event
  | parsed r => r.log
  | _ => []

variable {outside : Rules L ρ V} {read : {β : Type} → L β → κ → Outcome κ ParseError β}
  {budget : Nat}

theorem Store.exists_parse_of_events {st st' : Store L ρ V} {command : Command L ρ V κ}
    {answer : Answer V κ} (h : st.perform outside read budget command = some (answer, st'))
    (hevents : answer.events ≠ []) : ∃ name start, command = .parse name start := by
  cases command with
  | parse name start => exact ⟨name, start, rfl⟩
  | declare name =>
    obtain ⟨rfl, -⟩ := Prod.mk.inj (Option.some.inj h)
    exact absurd rfl hevents
  | define name draft =>
    obtain ⟨⟨m, after⟩, -, hanswer⟩ := Option.map_eq_some_iff.mp h
    cases m with
    | none =>
      obtain ⟨rfl, -⟩ := Prod.mk.inj hanswer
      exact absurd rfl hevents
    | some m =>
      obtain ⟨rfl, -⟩ := Prod.mk.inj hanswer
      exact absurd rfl hevents
  | clone | box | build | drop =>
    obtain ⟨after, -, hanswer⟩ := Option.map_eq_some_iff.mp h
    obtain ⟨rfl, -⟩ := Prod.mk.inj hanswer
    exact absurd rfl hevents

/-- Of all commands, only a parse has events. -/
theorem Store.forall₂_parse_of_events {st st' : Store L ρ V} {commands : List (Command L ρ V κ)}
    {answers : List (Answer V κ)}
    (h : st.performAll outside read budget commands = some (answers, st')) :
    List.Forall₂ (fun command answer => Answer.events answer ≠ [] →
      ∃ name start, command = Command.parse name start) commands answers := by
  induction commands generalizing st answers with
  | nil =>
    obtain ⟨rfl, -⟩ := Prod.mk.inj (Option.some.inj h)
    exact .nil
  | cons command commands ih =>
    obtain ⟨⟨answer, after⟩, hcommand, hrest⟩ := Option.bind_eq_some_iff.mp h
    obtain ⟨⟨more, last⟩, hmore, hanswers⟩ := Option.map_eq_some_iff.mp hrest
    obtain ⟨rfl, rfl⟩ := Prod.mk.inj hanswers
    exact .cons (exists_parse_of_events hcommand) (ih hmore)

end Forward

/-- A thunk that was not called cannot matter: a run that ends without a note of its label is, event
by event, the run with any other thunk in its place, at whatever places of the grammar and in
whatever rules it stands. If nothing else bears the label, each note of it stands right behind a
run of the first part at its site, which failed if the thunk is an alternative and succeeded if it
is a continuation. And no command but a parse has events: to declare, build or define a grammar
calls no thunk. -/
theorem uncalled_thunk_cannot_matter {L : Type → Type} {ρ V η κ α β : Type} [Cursor κ α]
    (read : {β : Type} → L β → κ → Outcome κ ParseError β) (label : String)
    (site : ThunkSite L ρ V η) (rules : Rules (Holed L η) ρ V) (g : Grammar (Holed L η) ρ V β) :
    (∀ (q q' : Grammar L ρ V η) (n m : Nat) (c : κ), n ≤ m →
      ((rules.fill (site.node label q)).run read n (g.fill (site.node label q)) c).outcome? ≠
        none →
      .thunk label ∉
        ((rules.fill (site.node label q)).run read n (g.fill (site.node label q)) c).trace →
      (rules.fill (site.node label q')).run read m (g.fill (site.node label q')) c =
        (rules.fill (site.node label q)).run read n (g.fill (site.node label q)) c) ∧
    (∀ (q : Grammar L ρ V η), ¬ site.Carries label → ¬ q.Carries label →
      ¬ rules.Carries label → ¬ g.Carries label → ∀ (n : Nat) (c : κ) (before after : List Event),
      ((rules.fill (site.node label q)).run read n (g.fill (site.node label q)) c).log =
        before ++ .thunk label :: after →
      site.CalledBetween (rules.fill (site.node label q)) read q before after) ∧
    ∀ (outside : Rules L ρ V) (budget : Nat) (st st' : Forward.Store L ρ V)
      (commands : List (Forward.Command L ρ V κ)) (answers : List (Forward.Answer V κ)),
      st.performAll outside read budget commands = some (answers, st') →
      List.Forall₂ (fun command answer => Forward.Answer.events answer ≠ [] →
        ∃ name start, command = Forward.Command.parse name start) commands answers := by
  refine ⟨?_, ?_, fun _ _ _ _ _ _ => Forward.Store.forall₂_parse_of_events⟩
  · intro q q' n m c hnm hends htrace
    rcases ThunkSite.run_refinesUnless hnm c with hevent | hrefines
    · exact absurd (List.mem_filter.mpr ⟨hevent, rfl⟩) htrace
    · exact hrefines.eq hends
  · intro q hsite hq hrules hg n c
    exact ThunkSite.callsWithin_run hsite hq hrules hg c

/-- An item is an 'x', or else what the thunk says. -/
def itemOr : ThunkSite TextLeaf Unit Char Char :=
  .alternative (.leaf (.inl (.exactly 'x')))

def itemRules : Rules (Holed TextLeaf Char) Unit Char := fun _ =>
  .ok (.leaf (.hole rfl))

/-- Two items. -/
def twoItems : Grammar (Holed TextLeaf Char) Unit Char Char :=
  (Grammar.call ()).andThen (.call ())

/-- On "xx" the thunk is not called; on "x" it is, behind the failure of the second item. -/
theorem uncalled_thunk_cannot_matter_twoItems :
    (let p := itemOr.node "b" (.succeed 'y')
      let q := itemOr.node "b" (.reject "no item")
      let c := TextCursor.start ⟨0, ['x', 'x']⟩
      ((itemRules.fill p).run TextLeaf.read 1 (twoItems.fill p) c).outcome? =
          some (.success 'x' ⟨⟨0, ['x', 'x']⟩, 2⟩) ∧
        (itemRules.fill q).run TextLeaf.read 5 (twoItems.fill q) c =
          (itemRules.fill p).run TextLeaf.read 1 (twoItems.fill p) c) ∧
    (let p := itemOr.node "b" (.succeed 'y')
      let e : ParseError := .endOfInput ⟨1, 1, 1⟩
      ((itemRules.fill p).run TextLeaf.read 1 (twoItems.fill p)
          (TextCursor.start ⟨0, ['x']⟩)).log = [.raised e] ++ .thunk "b" :: [] ∧
        itemOr.CalledBetween (itemRules.fill p) TextLeaf.read (.succeed 'y') [.raised e] []) ∧
    let commands : List (Forward.Command TextLeaf Unit Char TextCursor) :=
      [.build "g" ⟨[], .defer (some "b") (.succeed 'y')⟩, .parse "g" (TextCursor.start ⟨0, []⟩)]
    ∃ answers st, Forward.Store.performAll (itemRules.fill (.succeed 'y')) TextLeaf.read 1 {}
        commands = some (answers, st) ∧
      List.Forall₂ (fun command answer => Forward.Answer.events answer ≠ [] →
        ∃ name start, command = Forward.Command.parse name start) commands answers := by
  have h := uncalled_thunk_cannot_matter TextLeaf.read "b" itemOr itemRules twoItems
  refine ⟨⟨rfl, ?_⟩, ⟨rfl, ?_⟩, ?_⟩
  · refine h.1 (.succeed 'y') (.reject "no item") 1 5 _ (by decide) ?_ ?_
    · exact Option.some_ne_none _
    · exact List.not_mem_nil
  · refine h.2.1 (.succeed 'y') ?_ ?_ ?_ ?_ 1 (TextCursor.start ⟨0, ['x']⟩) _ _ rfl
    · exact id
    · exact id
    · rintro ⟨_, g, hg, hcarries⟩
      obtain rfl := Except.ok.inj hg
      exact hcarries
    · rintro (hcarries | ⟨_, hcarries⟩)
      · exact hcarries
      · exact hcarries
  · intro commands
    have hrun : ∃ answers st, Forward.Store.performAll (itemRules.fill (.succeed 'y')) TextLeaf.read
        1 {} commands = some (answers, st) := by
      simp [commands, Forward.Store.performAll, Forward.Store.perform, Forward.Store.build,
        Forward.Store.assemble, Forward.Store.capture, Forward.Store.addBox, Forward.Store.put,
        Forward.Store.find?, Forward.Store.forget, Forward.Store.release, Forward.Store.parser]
    obtain ⟨answers, st, hperform⟩ := hrun
    exact ⟨answers, st, hperform, h.2.2 _ 1 {} st commands answers hperform⟩

end Descent
