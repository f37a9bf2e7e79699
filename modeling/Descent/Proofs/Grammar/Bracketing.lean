import Descent.Grammar
import Descent.Leaf

/-!
# Bracketing

A choice between more than two grammars, or a sequence of more than two, is put together from
choices or sequences of two, and so brackets its parts in one of many ways. Only the order of the
parts tells in a run: alternatives are tried where the choice began until one does not fail, and
the parts of a sequence go on from each other until one does not succeed. No part behind that one is
run.
-/
namespace Descent

universe u v

/-! ## Runs of lists -/

namespace Run
variable {κ β γ : Type} {r s : Run κ β}

/-- What goes on after a run depends on how the run ended, apart from the events. -/
theorem outcome?_continueWith_congr {f f' : β → κ → Run κ γ} {g g' : ParseError → Run κ γ}
    (h : r.outcome? = s.outcome?) (hf : ∀ v c, (f v c).outcome? = (f' v c).outcome?)
    (hg : ∀ e, (g e).outcome? = (g' e).outcome?) :
    (r.continueWith f g).outcome? = (s.continueWith f' g').outcome? := by
  rcases hs : s.outcome? with _ | ⟨v, c⟩ | e
  · rw [continueWith_of_none (h.trans hs), continueWith_of_none hs]
  · rw [continueWith_of_success (h.trans hs), continueWith_of_success hs]
    exact hf v c
  · rw [continueWith_of_failure (h.trans hs), continueWith_of_failure hs]
    exact hg e

/-- Only a failure calls for an alternative. -/
theorem orElse_of_not_failure {g : ParseError → Run κ β}
    (h : ∀ e, r.outcome? ≠ some (.failure e)) : r.orElse g = r := by
  obtain ⟨_ | ⟨v, c⟩ | e, log⟩ := r
  · rfl
  · rw [orElse, continueWith_of_success rfl, after, outcome?_success]
    exact congrArg _ (List.append_nil log)
  · exact absurd rfl (h e)

end Run

namespace Parser
variable {κ β γ : Type} {c d : κ} {r r' : Run κ β}

/-- Trying the parsers in order at `c` comes to the run `r`: that of the first which does not fail
there, or of the last, after the events of those before it. -/
inductive FirstToSucceed (c : κ) : List (Parser κ β) → Run κ β → Prop where
  | decides {p : Parser κ β} {ps : List (Parser κ β)}
    (h : ∀ e, (p c).outcome? = some (.failure e) → ps = []) : FirstToSucceed c (p :: ps) (p c)
  | goesOn {p : Parser κ β} {ps : List (Parser κ β)} {r : Run κ β} {e : ParseError}
    (h : (p c).outcome? = some (.failure e)) (rest : FirstToSucceed c ps r) :
    FirstToSucceed c (p :: ps) (r.after (p c).log)

namespace FirstToSucceed
variable {ps qs : List (Parser κ β)}

theorem append (h : FirstToSucceed c ps r) (h' : FirstToSucceed c qs r') :
    FirstToSucceed c (ps ++ qs) (r.orElse fun _ => r') := by
  induction h with
  | @decides p ps hlast =>
    by_cases hp : ∃ e, (p c).outcome? = some (.failure e)
    · obtain ⟨e, he⟩ := hp
      rw [hlast e he, Run.orElse, Run.continueWith_of_failure he]
      exact .goesOn he h'
    · have hp : ∀ e, (p c).outcome? ≠ some (.failure e) := not_exists.mp hp
      rw [Run.orElse_of_not_failure hp]
      exact .decides fun e he => absurd he (hp e)
  | goesOn he _ ih =>
    rw [Run.orElse, Run.continueWith_after]
    exact .goesOn he ih

theorem unique (h : FirstToSucceed c ps r) (h' : FirstToSucceed c ps r') : r = r' := by
  induction h generalizing r' with
  | decides hlast =>
    cases h' with
    | decides _ => rfl
    | goesOn he hrest =>
      rw [hlast _ he] at hrest
      cases hrest
  | goesOn he hrest ih =>
    cases h' with
    | decides hlast =>
      rw [hlast _ he] at hrest
      cases hrest
    | goesOn _ hrest' => rw [ih hrest']

end FirstToSucceed

/-- Running the parsers in order from `c`, each where the one before it left off, and then `p`,
comes to the run `r`. Where one of them does not succeed, none behind it is run. -/
inductive OneAfterAnother (p : Parser κ β) :
    List (Σ γ : Type, Parser κ γ) → κ → Run κ β → Prop where
  | last {c : κ} : OneAfterAnother p [] c (p c)
  | goesOn {γ : Type} {q : Parser κ γ} {qs : List (Σ γ : Type, Parser κ γ)} {c d : κ} {v : γ}
    {r : Run κ β} (h : (q c).outcome? = some (.success v d)) (rest : OneAfterAnother p qs d r) :
    OneAfterAnother p (⟨γ, q⟩ :: qs) c (r.after (q c).log)
  | fails {γ : Type} {q : Parser κ γ} {qs : List (Σ γ : Type, Parser κ γ)} {c : κ} {e : ParseError}
    (h : (q c).outcome? = some (.failure e)) :
    OneAfterAnother p (⟨γ, q⟩ :: qs) c ((Run.failure e).after (q c).log)
  | exhausted {γ : Type} {q : Parser κ γ} {qs : List (Σ γ : Type, Parser κ γ)} {c : κ}
    (h : (q c).outcome? = none) : OneAfterAnother p (⟨γ, q⟩ :: qs) c ⟨none, (q c).log⟩

namespace OneAfterAnother
variable {p : Parser κ β} {q : Parser κ γ} {ps qs : List (Σ γ : Type, Parser κ γ)}

theorem append {r : Run κ γ} {f : κ → Run κ β} (h : OneAfterAnother q ps c r)
    (hf : ∀ d, OneAfterAnother p qs d (f d)) :
    OneAfterAnother p (ps ++ ⟨γ, q⟩ :: qs) c (r.andThen fun _ d => f d) := by
  induction h with
  | @last c =>
    rw [Run.andThen]
    rcases hq : (q c).outcome? with _ | ⟨v, d⟩ | e
    · rw [Run.continueWith_of_none hq]
      exact .exhausted hq
    · rw [Run.continueWith_of_success hq]
      exact .goesOn hq (hf d)
    · rw [Run.continueWith_of_failure hq]
      exact .fails hq
  | goesOn hsuccess _ ih =>
    rw [Run.andThen, Run.continueWith_after]
    exact .goesOn hsuccess ih
  | fails hfailure =>
    rw [Run.andThen, Run.continueWith_after]
    exact .fails hfailure
  | exhausted hnone => exact .exhausted hnone

theorem unique (h : OneAfterAnother p qs c r) (h' : OneAfterAnother p qs c r') : r = r' := by
  induction h generalizing r' with
  | last =>
    cases h'
    rfl
  | goesOn hsuccess _ ih =>
    cases h' with
    | goesOn hsuccess' hrest =>
      obtain ⟨-, rfl⟩ := Run.success_inj (hsuccess.symm.trans hsuccess')
      rw [ih hrest]
    | fails hfailure => simp [hsuccess] at hfailure
    | exhausted hnone => simp [hsuccess] at hnone
  | fails hfailure =>
    cases h' with
    | goesOn hsuccess => simp [hfailure] at hsuccess
    | fails hfailure' =>
      have he := Outcome.failure.inj (Option.some.inj (hfailure.symm.trans hfailure'))
      rw [he]
    | exhausted hnone => simp [hfailure] at hnone
  | exhausted hnone =>
    cases h' with
    | goesOn hsuccess => simp [hnone] at hsuccess
    | fails hfailure => simp [hnone] at hfailure
    | exhausted _ => rfl

end OneAfterAnother
end Parser

/-! ## Choices -/

/-- A bracketing of alternatives. The second part of each choice of two is a thunk, a call of which
may be noted under a label. -/
inductive Alternatives (π : Type u) where
  | one (p : π)
  | either (label : Option String) (first second : Alternatives π)

namespace Alternatives
variable {π : Type u} {σ : Type v} {κ α β V ρ : Type} {L : Type → Type}

/-- The alternatives, from left to right. -/
def leaves : Alternatives π → List π
  | one p => [p]
  | either _ s t => s.leaves ++ t.leaves

/-- No call of a thunk is noted. -/
def Unlabelled : Alternatives π → Prop
  | one _ => True
  | either label s t => label = none ∧ s.Unlabelled ∧ t.Unlabelled

def map (f : π → σ) : Alternatives π → Alternatives σ
  | one p => one (f p)
  | either label s t => either label (s.map f) (t.map f)

/-- The same choice without labels. -/
def plain : Alternatives π → Alternatives π
  | one p => one p
  | either _ s t => either none s.plain t.plain

def parser : Alternatives (Parser κ β) → Parser κ β
  | one p => p
  | either label s t => s.parser.orElse (t.parser.defer label)

def grammar : Alternatives (Grammar L ρ V β) → Grammar L ρ V β
  | one p => p
  | either label s t => s.grammar.orElse (.defer label t.grammar)

/-- The same choice with each call noted by the alternative that it starts with instead, and a call
of the whole under the label `label`. -/
def noted (label : Option String) : Alternatives (Parser κ β) → Alternatives (Parser κ β)
  | one p => one (p.defer label)
  | either l s t => either none (s.noted label) (t.noted l)

theorem unlabelled_plain (t : Alternatives π) : t.plain.Unlabelled := by
  induction t with
  | one p => trivial
  | either l s t ihs iht => exact ⟨rfl, ihs, iht⟩

@[simp] theorem leaves_plain (t : Alternatives π) : t.plain.leaves = t.leaves := by
  induction t with
  | one p => rfl
  | either l s t ihs iht => rw [plain, leaves, leaves, ihs, iht]

theorem unlabelled_noted (label : Option String) (t : Alternatives (Parser κ β)) :
    (t.noted label).Unlabelled := by
  induction t generalizing label with
  | one p => trivial
  | either l s t ihs iht => exact ⟨rfl, ihs label, iht l⟩

theorem parser_noted (label : Option String) (t : Alternatives (Parser κ β)) :
    (t.noted label).parser = t.parser.defer label := by
  induction t generalizing label with
  | one p => rfl
  | either l s t ihs iht =>
    rw [noted, parser, parser, ihs, iht]
    funext c
    exact Run.continueWith_after _ _ _ _

theorem noted_eq_self {t : Alternatives (Parser κ β)} (h : t.Unlabelled) : t.noted none = t := by
  induction t with
  | one p => rfl
  | either l s t ihs iht =>
    obtain ⟨rfl, hs, ht⟩ := h
    rw [noted, ihs hs, iht ht]

theorem outcome?_parser_plain (t : Alternatives (Parser κ β)) (c : κ) :
    (t.plain.parser c).outcome? = (t.parser c).outcome? := by
  induction t with
  | one p => rfl
  | either l s t ihs iht => exact Run.outcome?_continueWith_congr ihs (fun _ _ => rfl) fun _ => iht

theorem firstToSucceed_of_unlabelled {t : Alternatives (Parser κ β)} (h : t.Unlabelled) (c : κ) :
    Parser.FirstToSucceed c t.leaves (t.parser c) := by
  induction t with
  | one p => exact .decides fun _ _ => rfl
  | either l s t ihs iht =>
    obtain ⟨rfl, hs, ht⟩ := h
    exact (ihs hs).append (iht ht)

/-- The parser of a choice tries the alternatives in order, all from where the choice began. -/
theorem firstToSucceed (t : Alternatives (Parser κ β)) (c : κ) :
    Parser.FirstToSucceed c (t.noted none).leaves (t.parser c) := by
  have h := firstToSucceed_of_unlabelled (unlabelled_noted none t) c
  rwa [parser_noted] at h

theorem parser_eq_of_unlabelled {t t' : Alternatives (Parser κ β)} (h : t.Unlabelled)
    (h' : t'.Unlabelled) (hleaves : t.leaves = t'.leaves) : t.parser = t'.parser := by
  funext c
  have hfirst' := firstToSucceed_of_unlabelled h' c
  rw [← hleaves] at hfirst'
  exact (firstToSucceed_of_unlabelled h c).unique hfirst'

theorem outcome?_parser_eq {t t' : Alternatives (Parser κ β)} (h : t.leaves = t'.leaves) (c : κ) :
    (t.parser c).outcome? = (t'.parser c).outcome? := by
  have hplain : t.plain.parser = t'.plain.parser :=
    parser_eq_of_unlabelled (unlabelled_plain t) (unlabelled_plain t') (by simpa using h)
  rw [← outcome?_parser_plain, hplain, outcome?_parser_plain]

theorem run_grammar [Cursor κ α] (rules : Rules L ρ V)
    (read : {β : Type} → L β → κ → Outcome κ ParseError β) (n : Nat)
    (t : Alternatives (Grammar L ρ V β)) :
    rules.run read n t.grammar = (t.map (rules.run read n)).parser := by
  induction t with
  | one p => rfl
  | either l s t ihs iht =>
    rw [map, parser, ← ihs, ← iht]
    rfl

end Alternatives

/-! ## Sequences -/

/-- A bracketing of the parts of a sequence that yields what its last part does. The second part of
each sequence of two is a thunk, a call of which may be noted under a label. -/
inductive Sequence (P : Type → Type u) : Type → Type (max 1 u) where
  | one {β : Type} (p : P β) : Sequence P β
  | both {γ β : Type} (label : Option String) (first : Sequence P γ) (second : Sequence P β) :
    Sequence P β

namespace Sequence
variable {P : Type → Type u} {Q : Type → Type v} {κ α V ρ : Type} {L : Type → Type}

/-- The part that the value comes from. -/
def last : {β : Type} → Sequence P β → P β
  | _, one p => p
  | _, both _ _ t => t.last

/-- The parts before the last one, from left to right. -/
def init : {β : Type} → Sequence P β → List (Σ γ : Type, P γ)
  | _, one _ => []
  | _, both _ s t => s.init ++ ⟨_, s.last⟩ :: t.init

/-- No call of a thunk is noted. -/
def Unlabelled : {β : Type} → Sequence P β → Prop
  | _, one _ => True
  | _, both label s t => label = none ∧ s.Unlabelled ∧ t.Unlabelled

def map (f : {β : Type} → P β → Q β) : {β : Type} → Sequence P β → Sequence Q β
  | _, one p => one (f p)
  | _, both label s t => both label (s.map f) (t.map f)

/-- The same sequence without labels. -/
def plain : {β : Type} → Sequence P β → Sequence P β
  | _, one p => one p
  | _, both _ s t => both none s.plain t.plain

def parser : {β : Type} → Sequence (Parser κ) β → Parser κ β
  | _, one p => p
  | _, both label s t => s.parser.bind fun _ => t.parser.defer label

def grammar : {β : Type} → Sequence (Grammar L ρ V) β → Grammar L ρ V β
  | _, one p => p
  | _, both label s t => s.grammar.andThen (.defer label t.grammar)

/-- The same sequence with each call noted by the part that it starts with instead, and a call of
the whole under the label `label`. -/
def noted (label : Option String) : {β : Type} → Sequence (Parser κ) β → Sequence (Parser κ) β
  | _, one p => one (p.defer label)
  | _, both l s t => both none (s.noted label) (t.noted l)

variable {β : Type}

theorem unlabelled_plain (t : Sequence P β) : t.plain.Unlabelled := by
  induction t with
  | one p => trivial
  | both l s t ihs iht => exact ⟨rfl, ihs, iht⟩

@[simp] theorem last_plain (t : Sequence P β) : t.plain.last = t.last := by
  induction t with
  | one p => rfl
  | both l s t _ iht => exact iht

@[simp] theorem init_plain (t : Sequence P β) : t.plain.init = t.init := by
  induction t with
  | one p => rfl
  | both l s t ihs iht => rw [plain, init, init, ihs, iht, last_plain]

theorem unlabelled_noted (label : Option String) (t : Sequence (Parser κ) β) :
    (t.noted label).Unlabelled := by
  induction t generalizing label with
  | one p => trivial
  | both l s t ihs iht => exact ⟨rfl, ihs label, iht l⟩

theorem parser_noted (label : Option String) (t : Sequence (Parser κ) β) :
    (t.noted label).parser = t.parser.defer label := by
  induction t generalizing label with
  | one p => rfl
  | both l s t ihs iht =>
    rw [noted, parser, parser, ihs, iht]
    funext c
    exact Run.continueWith_after _ _ _ _

theorem noted_eq_self {t : Sequence (Parser κ) β} (h : t.Unlabelled) : t.noted none = t := by
  induction t with
  | one p => rfl
  | both l s t ihs iht =>
    obtain ⟨rfl, hs, ht⟩ := h
    rw [noted, ihs hs, iht ht]

theorem outcome?_parser_plain (t : Sequence (Parser κ) β) (c : κ) :
    (t.plain.parser c).outcome? = (t.parser c).outcome? := by
  induction t generalizing c with
  | one p => rfl
  | both l s t ihs iht =>
    exact Run.outcome?_continueWith_congr (ihs c) (fun _ d => iht d) fun _ => rfl

theorem oneAfterAnother_of_unlabelled {t : Sequence (Parser κ) β} (h : t.Unlabelled) (c : κ) :
    Parser.OneAfterAnother t.last t.init c (t.parser c) := by
  induction t generalizing c with
  | one p => exact .last
  | both l s t ihs iht =>
    obtain ⟨rfl, hs, ht⟩ := h
    exact (ihs hs c).append (iht ht)

/-- The parser of a sequence runs the parts in order, each from where the one before it left off. -/
theorem oneAfterAnother (t : Sequence (Parser κ) β) (c : κ) :
    Parser.OneAfterAnother (t.noted none).last (t.noted none).init c (t.parser c) := by
  have h := oneAfterAnother_of_unlabelled (unlabelled_noted none t) c
  rwa [parser_noted] at h

theorem parser_eq_of_unlabelled {t t' : Sequence (Parser κ) β} (h : t.Unlabelled)
    (h' : t'.Unlabelled) (hinit : t.init = t'.init) (hlast : t.last = t'.last) :
    t.parser = t'.parser := by
  funext c
  have hafter' := oneAfterAnother_of_unlabelled h' c
  rw [← hinit, ← hlast] at hafter'
  exact (oneAfterAnother_of_unlabelled h c).unique hafter'

theorem outcome?_parser_eq {t t' : Sequence (Parser κ) β} (hinit : t.init = t'.init)
    (hlast : t.last = t'.last) (c : κ) : (t.parser c).outcome? = (t'.parser c).outcome? := by
  have hplain : t.plain.parser = t'.plain.parser :=
    parser_eq_of_unlabelled (unlabelled_plain t) (unlabelled_plain t') (by simpa using hinit)
      (by simpa using hlast)
  rw [← outcome?_parser_plain, hplain, outcome?_parser_plain]

theorem run_grammar [Cursor κ α] (rules : Rules L ρ V)
    (read : {β : Type} → L β → κ → Outcome κ ParseError β) (n : Nat)
    (t : Sequence (Grammar L ρ V) β) :
    rules.run read n t.grammar = (t.map (rules.run read n)).parser := by
  induction t with
  | one p => rfl
  | both l s t ihs iht =>
    rw [map, parser, ← ihs, ← iht]
    rfl

end Sequence

/-- How choices and sequences are bracketed is irrelevant. A choice between any number of parsers is
the run of the first that does not fail, where the choice began, and of the last if all fail; a
sequence runs its parts from left to right, up to the first that does not succeed. Each call that is
to be noted is noted by the part that it starts with. So two bracketings of one list come to the
same outcome at every cursor, and to the same events if nothing is noted. And a grammar that is put
together so runs as its parts do, whatever the rules and the budget are. -/
theorem bracketing_irrelevant {κ α : Type} [Cursor κ α] :
    (∀ {β : Type} (t : Alternatives (Parser κ β)) (c : κ),
      Parser.FirstToSucceed c (t.noted none).leaves (t.parser c) ∧
        (t.Unlabelled → t.noted none = t)) ∧
    (∀ {β : Type} (t t' : Alternatives (Parser κ β)), t.leaves = t'.leaves →
      (∀ c, (t.parser c).outcome? = (t'.parser c).outcome?) ∧
        (t.Unlabelled → t'.Unlabelled → t.parser = t'.parser)) ∧
    (∀ {β : Type} (t : Sequence (Parser κ) β) (c : κ),
      Parser.OneAfterAnother (t.noted none).last (t.noted none).init c (t.parser c) ∧
        (t.Unlabelled → t.noted none = t)) ∧
    (∀ {β : Type} (t t' : Sequence (Parser κ) β), t.init = t'.init → t.last = t'.last →
      (∀ c, (t.parser c).outcome? = (t'.parser c).outcome?) ∧
        (t.Unlabelled → t'.Unlabelled → t.parser = t'.parser)) ∧
    ∀ {L : Type → Type} {ρ V β : Type} (rules : Rules L ρ V)
      (read : {β : Type} → L β → κ → Outcome κ ParseError β) (n : Nat),
      (∀ t : Alternatives (Grammar L ρ V β),
        rules.run read n t.grammar = (t.map (rules.run read n)).parser) ∧
      ∀ t : Sequence (Grammar L ρ V) β,
        rules.run read n t.grammar = (t.map (rules.run read n)).parser := by
  refine ⟨fun t c => ⟨t.firstToSucceed c, Alternatives.noted_eq_self⟩, fun t t' h => ⟨?_, ?_⟩,
    fun t c => ⟨t.oneAfterAnother c, Sequence.noted_eq_self⟩, fun t t' hinit hlast => ⟨?_, ?_⟩,
    fun rules read n => ⟨Alternatives.run_grammar rules read n, Sequence.run_grammar rules read n⟩⟩
  · exact Alternatives.outcome?_parser_eq h
  · exact fun ht ht' => Alternatives.parser_eq_of_unlabelled ht ht' h
  · exact Sequence.outcome?_parser_eq hinit hlast
  · exact fun ht ht' => Sequence.parser_eq_of_unlabelled ht ht' hinit hlast

/-- The parser of a single leaf for text. -/
def TextLeaf.parser {β : Type} (l : TextLeaf β) : Parser TextCursor β := fun c =>
  Run.ofOutcome (l.read c)

/-- On "z", the last of three letters is found however they are bracketed; on "a", "bc" is missed
behind an 'a', and nothing is run that would follow it. -/
theorem bracketing_irrelevant_letters :
    (let x := TextLeaf.parser (.inl (.exactly 'x'))
      let y := TextLeaf.parser (.inl (.exactly 'y'))
      let z := TextLeaf.parser (.inl (.exactly 'z'))
      let t := Alternatives.either none (.one x) (.either none (.one y) (.one z))
      let t' := Alternatives.either none (.either none (.one x) (.one y)) (.one z)
      t.leaves = t'.leaves ∧ t.Unlabelled ∧ t'.Unlabelled ∧ t.parser = t'.parser ∧
        (t.parser (TextCursor.start ⟨0, ['z']⟩)).outcome? =
          some (.success 'z' ⟨⟨0, ['z']⟩, 1⟩)) ∧
    let a := TextLeaf.parser (.inl (.exactly 'a'))
    let bc := TextLeaf.parser (.inr (.tag ['b', 'c']))
    let position := TextLeaf.parser (.inl .position)
    let t := Sequence.both (some "bc") (.one a) (.both none (.one bc) (.one position))
    let t' := Sequence.both none (.both none (.one a) (.one bc)) (.one position)
    t.init = t'.init ∧ t.last = t'.last ∧
      (∀ c, (t.parser c).outcome? = (t'.parser c).outcome?) ∧
      (t'.parser (TextCursor.start ⟨0, ['a']⟩)).outcome? =
        some (.failure (.endOfInput ⟨1, 1, 1⟩)) := by
  have h := bracketing_irrelevant (κ := TextCursor)
  constructor
  · intro x y z t t'
    have ht : t.Unlabelled := ⟨rfl, trivial, rfl, trivial, trivial⟩
    have ht' : t'.Unlabelled := ⟨rfl, ⟨rfl, trivial, trivial⟩, trivial⟩
    exact ⟨rfl, ht, ht', (h.2.1 t t' rfl).2 ht ht', rfl⟩
  · intro a bc position t t'
    exact ⟨rfl, rfl, (h.2.2.2.1 t t' rfl rfl).1, rfl⟩

end Descent
