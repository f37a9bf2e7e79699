import Descent.Outcome

/-!
# Runs

What a parser does on one cursor: how it ended, and the events on the way. A run is given a
budget of repetitions and nested calls; one that spends it has no outcome. The events record the
steps that a grammar asks to have noted, and every error at the moment it arises, so that they
also tell which error came last.
-/
namespace Descent

/-- Something that happened during a run. -/
inductive Event where
  /-- A named part was started at a position. -/
  | entered (name : String) (position : Nat)
  /-- A named part succeeded and left off at a position. -/
  | left (name : String) (position : Nat)
  /-- A named part failed. -/
  | gaveUp (name : String)
  /-- A postponed part was called for. -/
  | thunk (label : String)
  /-- An error arose. -/
  | raised (error : ParseError)
  deriving DecidableEq

/-- Whether a grammar asked for the event, rather than an error giving rise to it. -/
def Event.isNoted : Event → Bool
  | raised _ => false
  | _ => true

/-- The outcome of a parser on one cursor, none if the budget was spent, and its events. -/
structure Run (κ β : Type) where
  outcome? : Option (Outcome κ ParseError β)
  log : List Event

namespace Run
variable {κ β γ : Type}

def success (v : β) (rest : κ) : Run κ β := ⟨some (.success v rest), []⟩

/-- Ends with an error that arose earlier. -/
def failure (e : ParseError) : Run κ β := ⟨some (.failure e), []⟩

/-- Ends with a new error. -/
def raise (e : ParseError) : Run κ β := ⟨some (.failure e), [.raised e]⟩

/-- The budget is spent. -/
def exhausted : Run κ β := ⟨none, []⟩

/-- The run after the events `log`. -/
def after (log : List Event) (r : Run κ β) : Run κ β :=
  { r with log := log ++ r.log }

/-- Goes on after a success with one run and after a failure with another. -/
def continueWith (r : Run κ β) (onSuccess : β → κ → Run κ γ) (onFailure : ParseError → Run κ γ) :
    Run κ γ :=
  match r.outcome? with
  | some (.success v rest) => (onSuccess v rest).after r.log
  | some (.failure e) => (onFailure e).after r.log
  | none => ⟨none, r.log⟩

/-- The run of a parser that needs no budget. -/
def ofOutcome : Outcome κ ParseError β → Run κ β
  | .success v rest => success v rest
  | .failure e => raise e

/-- Goes on after a success; a failure stays as it is. -/
def andThen (r : Run κ β) (f : β → κ → Run κ γ) : Run κ γ :=
  r.continueWith f failure

/-- Goes on after a failure; a success stays as it is. -/
def orElse (r : Run κ β) (f : ParseError → Run κ β) : Run κ β :=
  r.continueWith success f

/-- Replaces the value of a success. -/
def map (f : β → γ) (r : Run κ β) : Run κ γ :=
  r.andThen fun v rest => success (f v) rest

/-- The events that grammars asked for. -/
def trace (r : Run κ β) : List Event :=
  r.log.filter Event.isNoted

@[simp] theorem after_nil (r : Run κ β) : r.after [] = r := rfl

@[simp] theorem after_after (l m : List Event) (r : Run κ β) :
    (r.after m).after l = r.after (l ++ m) := by
  simp [after]

@[simp] theorem continueWith_success (v : β) (c : κ) (f : β → κ → Run κ γ)
    (g : ParseError → Run κ γ) : (success v c).continueWith f g = f v c := rfl

@[simp] theorem continueWith_failure (e : ParseError) (f : β → κ → Run κ γ)
    (g : ParseError → Run κ γ) : (failure e : Run κ β).continueWith f g = g e := rfl

@[simp] theorem continueWith_raise (e : ParseError) (f : β → κ → Run κ γ)
    (g : ParseError → Run κ γ) :
    (raise e : Run κ β).continueWith f g = (g e).after [.raised e] := rfl

@[simp] theorem continueWith_exhausted (f : β → κ → Run κ γ) (g : ParseError → Run κ γ) :
    (exhausted : Run κ β).continueWith f g = exhausted := rfl

@[simp] theorem continueWith_after (l : List Event) (r : Run κ β) (f : β → κ → Run κ γ)
    (g : ParseError → Run κ γ) :
    (r.after l).continueWith f g = (r.continueWith f g).after l := by
  rcases r with ⟨_ | ⟨v, c⟩ | e, log⟩ <;> simp [continueWith, after]

@[simp] theorem outcome?_after (l : List Event) (r : Run κ β) :
    (r.after l).outcome? = r.outcome? := rfl

@[simp] theorem log_after (l : List Event) (r : Run κ β) : (r.after l).log = l ++ r.log := rfl

@[simp] theorem outcome?_success (v : β) (c : κ) :
    (success v c : Run κ β).outcome? = some (.success v c) := rfl

@[simp] theorem outcome?_failure (e : ParseError) :
    (failure e : Run κ β).outcome? = some (.failure e) := rfl

@[simp] theorem outcome?_raise (e : ParseError) :
    (raise e : Run κ β).outcome? = some (.failure e) := rfl

@[simp] theorem outcome?_ofOutcome (o : Outcome κ ParseError β) :
    (ofOutcome o).outcome? = some o := by
  cases o <;> rfl

@[simp] theorem outcome?_exhausted : (exhausted : Run κ β).outcome? = none := rfl

variable {r : Run κ β} {o : Outcome κ ParseError γ} {v : β} {c : κ} {e : ParseError}
  {f : β → κ → Run κ γ} {g : ParseError → Run κ γ}

theorem continueWith_of_success (h : r.outcome? = some (.success v c)) :
    r.continueWith f g = (f v c).after r.log := by
  simp [continueWith, h]

theorem continueWith_of_failure (h : r.outcome? = some (.failure e)) :
    r.continueWith f g = (g e).after r.log := by
  simp [continueWith, h]

theorem continueWith_of_none (h : r.outcome? = none) : r.continueWith f g = ⟨none, r.log⟩ := by
  simp [continueWith, h]

theorem success_inj {w : β} {d : κ} (h : (success v c : Run κ β).outcome? = some (.success w d)) :
    v = w ∧ c = d := by
  simpa using h

/-- A continued run ends only if the first part and what follows it do. -/
theorem ends_of_continueWith (h : (r.continueWith f g).outcome? = some o) :
    (∃ v c, r.outcome? = some (.success v c) ∧ (f v c).outcome? = some o) ∨
      ∃ e, r.outcome? = some (.failure e) ∧ (g e).outcome? = some o := by
  rcases hr : r.outcome? with _ | ⟨v, c⟩ | e
  · simp [continueWith_of_none hr] at h
  · exact Or.inl ⟨v, c, rfl, by simpa [continueWith_of_success hr] using h⟩
  · exact Or.inr ⟨e, rfl, by simpa [continueWith_of_failure hr] using h⟩

theorem success_of_andThen {w : γ} {d : κ} (h : (r.andThen f).outcome? = some (.success w d)) :
    ∃ v c, r.outcome? = some (.success v c) ∧ (f v c).outcome? = some (.success w d) := by
  rcases ends_of_continueWith h with hs | ⟨e, _, he⟩
  · exact hs
  · simp at he

theorem success_of_orElse {g : ParseError → Run κ β}
    (h : (r.orElse g).outcome? = some (.success v c)) :
    r.outcome? = some (.success v c) ∨
      ∃ e, r.outcome? = some (.failure e) ∧ (g e).outcome? = some (.success v c) := by
  rcases ends_of_continueWith h with ⟨w, d, hr, hs⟩ | hf
  · obtain ⟨rfl, rfl⟩ := success_inj hs
    exact Or.inl hr
  · exact Or.inr hf

theorem success_of_map {h : β → γ} {w : γ} (hs : (r.map h).outcome? = some (.success w c)) :
    ∃ v, r.outcome? = some (.success v c) ∧ h v = w := by
  obtain ⟨v, d, hr, hw⟩ := success_of_andThen hs
  obtain ⟨rfl, rfl⟩ := success_inj hw
  exact ⟨v, hr, rfl⟩

end Run
end Descent
