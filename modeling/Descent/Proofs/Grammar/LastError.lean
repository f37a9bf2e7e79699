import Descent.Atom.Token
import Descent.Cursor.Elements
import Descent.Leaf
import Descent.Proofs.Grammar.Evaluation

/-!
# The error of a failed parse

A parse that fails gives the error that arose last, as it arose. The events of a run tell which
that was: after it come only the notes of the named parts that failed because of it. Whatever arose
before, and was answered by an alternative or ended a repetition, is not seen again.
-/
namespace Descent

/-- The error `e` is the last to arise among the events, and nothing but notes of failure follows
it. -/
def ClosesWith (e : ParseError) (log : List Event) : Prop :=
  ∃ before closing, log = before ++ .raised e :: closing ∧
    ∀ event ∈ closing, ∃ name, event = .gaveUp name

namespace ClosesWith
variable {e e' : ParseError} {log : List Event}

theorem raised (e : ParseError) : ClosesWith e [.raised e] := ⟨[], [], rfl, by simp⟩

theorem prepend (h : ClosesWith e log) (earlier : List Event) : ClosesWith e (earlier ++ log) := by
  obtain ⟨before, closing, rfl, hclosing⟩ := h
  exact ⟨earlier ++ before, closing, (List.append_assoc ..).symm, hclosing⟩

theorem gaveUp (h : ClosesWith e log) (name : String) : ClosesWith e (log ++ [.gaveUp name]) := by
  obtain ⟨before, closing, rfl, hclosing⟩ := h
  refine ⟨before, closing ++ [.gaveUp name], by simp, fun event hevent => ?_⟩
  rcases List.mem_append.mp hevent with hevent | hevent
  · exact hclosing event hevent
  · exact ⟨name, List.mem_singleton.mp hevent⟩

end ClosesWith

variable {L : Type → Type} {ρ V κ α β : Type}

/-- The leaf occurs in the grammar. -/
def Grammar.HasLeaf (l : Σ γ, L γ) : {β : Type} → Grammar L ρ V β → Prop
  | β, leaf l' => l = ⟨β, l'⟩
  | _, succeed _ => False
  | _, reject _ => False
  | _, orElse p q => p.HasLeaf l ∨ q.HasLeaf l
  | _, bind p k => p.HasLeaf l ∨ ∃ v, (k v).HasLeaf l
  | _, many p => p.HasLeaf l
  | _, sepBy p s => p.HasLeaf l ∨ s.HasLeaf l
  | _, defer _ p => p.HasLeaf l
  | _, traced _ p => p.HasLeaf l
  | _, call _ => False

/-- A rejection with the message occurs in the grammar. -/
def Grammar.HasReject (message : String) : {β : Type} → Grammar L ρ V β → Prop
  | _, leaf _ => False
  | _, succeed _ => False
  | _, reject message' => message = message'
  | _, orElse p q => p.HasReject message ∨ q.HasReject message
  | _, bind p k => p.HasReject message ∨ ∃ v, (k v).HasReject message
  | _, many p => p.HasReject message
  | _, sepBy p s => p.HasReject message ∨ s.HasReject message
  | _, defer _ p => p.HasReject message
  | _, traced _ p => p.HasReject message
  | _, call _ => False

variable [Cursor κ α]

/-- The ways for an error to arise while `g` is run: a leaf of the system fails at a cursor, a
rejection of the system is run at a cursor, or a rule that is called is missing. -/
inductive Rules.Arises (rules : Rules L ρ V)
    (read : {β : Type} → L β → κ → Outcome κ ParseError β) (g : Grammar L ρ V β) :
    ParseError → Prop
  | leaf {γ : Type} {l : L γ} {c : κ} {e : ParseError}
    (hl : g.HasLeaf ⟨γ, l⟩ ∨ ∃ r body, rules r = .ok body ∧ body.HasLeaf ⟨γ, l⟩)
    (he : read l c = .failure e) : Arises rules read g e
  | rejection {message : String} {c : κ}
    (hm : g.HasReject message ∨ ∃ r body, rules r = .ok body ∧ body.HasReject message) :
    Arises rules read g (.rejected message (Cursor.location c))
  | misuse {r : ρ} {m : Misuse} (hr : rules r = .error m) : Arises rules read g (.misuse m)

namespace Rules
variable {rules : Rules L ρ V} {read : {β : Type} → L β → κ → Outcome κ ParseError β}
  {γ : Type} {g : Grammar L ρ V β} {e : ParseError}

namespace Arises

/-- What arises in a part arises in the whole. -/
theorem of_part {p : Grammar L ρ V γ} (h : Arises rules read p e)
    (hleaf : ∀ l, p.HasLeaf l → g.HasLeaf l)
    (hreject : ∀ message, p.HasReject message → g.HasReject message) : Arises rules read g e := by
  cases h with
  | leaf hl he => exact .leaf (hl.imp_left (hleaf _)) he
  | rejection hm => exact .rejection (hm.imp_left (hreject _))
  | misuse hr => exact .misuse hr

/-- What arises in a rule arises wherever the rule is called. -/
theorem of_rule {r : ρ} {body : Grammar L ρ V V} (hr : rules r = .ok body)
    (h : Arises rules read body e) : Arises rules read g e := by
  cases h with
  | leaf hl he => exact .leaf (Or.inr (hl.elim (fun hl => ⟨r, body, hr, hl⟩) id)) he
  | rejection hm => exact .rejection (Or.inr (hm.elim (fun hm => ⟨r, body, hr, hm⟩) id))
  | misuse hr => exact .misuse hr

end Arises

namespace RunsTo
variable {c : κ} {log : List Event}

/-- A failure is the error that arose last: nothing is run after it, since only an alternative and
the end of a repetition go on from a failure, and neither of them fails with it. -/
theorem closesWith (h : RunsTo rules read g c log (.failure e)) : ClosesWith e log := by
  generalize ho : Outcome.failure e = o at h
  induction h with
  | leafFails => cases ho; exact .raised e
  | reject => cases ho; exact .raised _
  | second _ _ _ ih => exact (ih ho).prepend _
  | bind _ _ _ ih => exact (ih ho).prepend _
  | bindFails _ ih => cases ho; exact ih rfl
  | defer _ ih => exact (ih ho).prepend _
  | tracedFails _ ih => cases ho; exact ((ih rfl).gaveUp _).prepend [_]
  | call _ _ ih => exact ih ho
  | missing => cases ho; exact .raised _
  | _ => cases ho

theorem arises {o : Outcome κ ParseError β} (h : RunsTo rules read g c log o)
    (he : .raised e ∈ log) : Arises rules read g e := by
  induction h with
  | leaf => cases he
  | leafFails h =>
    obtain rfl : e = _ := by simpa using he
    exact .leaf (Or.inl rfl) h
  | succeed => cases he
  | reject =>
    obtain rfl : e = _ := by simpa using he
    exact .rejection (Or.inl rfl)
  | first _ ih => exact (ih he).of_part (fun _ => Or.inl) fun _ => Or.inl
  | second _ _ ihp ihq =>
    obtain he | he := List.mem_append.mp he
    · exact (ihp he).of_part (fun _ => Or.inl) fun _ => Or.inl
    · exact (ihq he).of_part (fun _ => Or.inr) fun _ => Or.inr
  | bind _ _ ihp ihk =>
    obtain he | he := List.mem_append.mp he
    · exact (ihp he).of_part (fun _ => Or.inl) fun _ => Or.inl
    · exact (ihk he).of_part (fun _ h => Or.inr ⟨_, h⟩) fun _ h => Or.inr ⟨_, h⟩
  | bindFails _ ih => exact (ih he).of_part (fun _ => Or.inl) fun _ => Or.inl
  | manyEnd _ ih | manyStay _ _ ih => exact (ih he).of_part (fun _ => id) fun _ => id
  | manyMore _ _ _ ihp ihrest =>
    obtain he | he := List.mem_append.mp he
    · exact (ihp he).of_part (fun _ => id) fun _ => id
    · exact ihrest he
  | sepByNone _ ih => exact (ih he).of_part (fun _ => Or.inl) fun _ => Or.inl
  | sepByEnd _ _ ihp ihs | sepByStay _ _ _ ihp ihs =>
    obtain he | he := List.mem_append.mp he
    · exact (ihp he).of_part (fun _ => Or.inl) fun _ => Or.inl
    · exact (ihs he).of_part (fun _ => Or.inr) fun _ => Or.inr
  | sepByMore _ _ _ _ ihp ihs ihrest =>
    obtain he | he := List.mem_append.mp he
    · exact (ihp he).of_part (fun _ => Or.inl) fun _ => Or.inl
    · obtain he | he := List.mem_append.mp he
      · exact (ihs he).of_part (fun _ => Or.inr) fun _ => Or.inr
      · exact ihrest he
  | defer _ ih => exact (ih (by simpa using he)).of_part (fun _ => id) fun _ => id
  | traced _ ih | tracedFails _ ih =>
    exact (ih (by simpa using he)).of_part (fun _ => id) fun _ => id
  | call hr _ ih => exact (ih he).of_rule hr
  | missing hr =>
    obtain rfl : e = _ := by simpa using he
    exact .misuse hr

end RunsTo
end Rules

/-- A parse that fails gives the error that arose last in its run, unchanged, and then does nothing
more but leave the named parts that it was in. The run is one by the rules, by which errors arise
where leaves fail, where rejections are met and where rules are missing, and nowhere else. So all
errors of the run arose from a leaf of the system that failed, from a rejection that is written in
the system, or from a rule that was missing. -/
theorem failure_is_last_error (rules : Rules L ρ V)
    (read : {β : Type} → L β → κ → Outcome κ ParseError β) (budget : Nat) (g : Grammar L ρ V β)
    (c : κ) (e : ParseError)
    (h : (rules.run read budget g c).outcome? = some (.failure e)) :
    ClosesWith e (rules.run read budget g c).log ∧
      rules.RunsTo read g c (rules.run read budget g c).log (.failure e) ∧
      ∀ e', .raised e' ∈ (rules.run read budget g c).log → rules.Arises read g e' :=
  have hruns := Rules.runsTo_of_run h
  ⟨hruns.closesWith, hruns, fun _ he => hruns.arises he⟩

/-- The errors of the first two alternatives and of the repetition arise before the misuse, and are
gone with it. -/
theorem failure_is_last_error_misuse :
    let source : Source Token := ⟨0, [.comma, .newline]⟩
    let rules : Rules (Leaf Token) Unit Unit := fun _ => .error .undefinedForward
    let g : Grammar (Leaf Token) Unit Unit Unit :=
      (Grammar.leaf (.exactly .opening)).erase.orElse
        (((Grammar.leaf (.exactly .comma)).andThen (.reject "no group")).orElse
          ((Grammar.many (.leaf (.exactly .comma))).andThen (.traced "rest" (.call ()))))
    let run := rules.run Leaf.read 3 g (ElementCursor.start source)
    run.outcome? = some (.failure (.misuse .undefinedForward)) ∧
      ClosesWith (.misuse .undefinedForward) run.log ∧
      rules.RunsTo Leaf.read g (ElementCursor.start source) run.log
        (.failure (.misuse .undefinedForward)) ∧
      ∀ e, .raised e ∈ run.log → rules.Arises (κ := ElementCursor Token) Leaf.read g e :=
  ⟨rfl, failure_is_last_error _ _ 3 _ _ (.misuse .undefinedForward) rfl⟩

end Descent
