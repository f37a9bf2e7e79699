import Descent.Proofs.Leaf.Passage
import Descent.Proofs.Grammar.Repetitions

/-!
# Grammars that undo a writing

Values can be written as atoms. A grammar undoes the writing if it succeeds with a value exactly
where that value's atoms come first, and leaves off behind them. Then it fails exactly where no
written value comes first. A repetition of such a grammar undoes the writing of lists, and goes on
to the first place where no further item is written; so does one with separators, which are consumed
only in front of an item.
-/
namespace Descent

/-- What `p` reads, between two texts. -/
def Grammar.between {ρ V β : Type} (opening closing : List Char) (p : Grammar TextLeaf ρ V β) :
    Grammar TextLeaf ρ V β :=
  ((Grammar.leaf (.inr (.tag opening))).andThen (.defer none p)).before
    (.leaf (.inr (.tag closing)))

namespace Rules
variable {L : Type → Type} {ρ V κ α β γ : Type} [Cursor κ α] {rules : Rules L ρ V}
  {read : {β : Type} → L β → κ → Outcome κ ParseError β} {p q : Grammar L ρ V β} {c d : κ}

/-- Separators in between are separators in front of all items but the first. -/
theorem intercalate_map_cons (separator : List α) (write : β → List α) (v : β) (vs : List β) :
    separator.intercalate ((v :: vs).map write) =
      write v ++ vs.flatMap fun v => separator ++ write v := by
  induction vs generalizing v with
  | nil => simp
  | cons u us ih =>
    have hrest := ih u
    rw [List.map_cons] at hrest
    rw [List.map_cons, List.map_cons, List.intercalate_cons_cons, hrest, List.flatMap_cons]
    simp only [List.append_assoc]

theorem reaches_of_separatedRounds {s : Grammar L ρ V γ} {vs : List β}
    (h : Rounds (rules.SeparatedRound read p s) c vs d) : Cursor.Reaches c d := by
  induction h with
  | nil c => exact Cursor.Reaches.refl c
  | cons h _ ih =>
    obtain ⟨-, -, -, -, hlater⟩ := h
    exact hlater.1.trans ih

section successes
variable {v : β} {w : γ}

theorem endsWith_leaf_iff {l : L β} {o : Outcome κ ParseError β} :
    rules.EndsWith read (.leaf l) c o ↔ read l c = o := by
  constructor
  · exact fun h => (endsWith_leaf l).unique h
  · rintro rfl
    exact endsWith_leaf l

theorem endsWith_bind_success_iff {k : β → Grammar L ρ V γ} :
    rules.EndsWith read (p.bind k) c (.success w d) ↔
      ∃ v e, rules.EndsWith read p c (.success v e) ∧
        rules.EndsWith read (k v) e (.success w d) := by
  simp [endsWith_bind_iff]

theorem endsWith_map_success_iff {f : β → γ} :
    rules.EndsWith read (p.map f) c (.success w d) ↔
      ∃ v, rules.EndsWith read p c (.success v d) ∧ f v = w := by
  rw [Grammar.map, endsWith_bind_success_iff]
  constructor
  · rintro ⟨v, e, hv, hw⟩
    obtain ⟨rfl, rfl⟩ := Outcome.success.inj (hw.unique (endsWith_succeed (f v)))
    exact ⟨v, hv, rfl⟩
  · rintro ⟨v, hv, rfl⟩
    exact ⟨v, d, hv, endsWith_succeed (f v)⟩

theorem endsWith_andThen_success_iff {q : Grammar L ρ V γ} :
    rules.EndsWith read (p.andThen q) c (.success w d) ↔
      ∃ v e, rules.EndsWith read p c (.success v e) ∧ rules.EndsWith read q e (.success w d) :=
  endsWith_bind_success_iff

theorem endsWith_before_success_iff {q : Grammar L ρ V γ} :
    rules.EndsWith read (p.before q) c (.success v d) ↔
      ∃ e u, rules.EndsWith read p c (.success v e) ∧ rules.EndsWith read q e (.success u d) := by
  rw [Grammar.before, endsWith_bind_success_iff]
  constructor
  · rintro ⟨v', e, hv, h⟩
    obtain ⟨u, hu, rfl⟩ := endsWith_map_success_iff.mp h
    exact ⟨e, u, hv, hu⟩
  · rintro ⟨e, u, hv, hu⟩
    exact ⟨v, e, hv, endsWith_map_success_iff.mpr ⟨u, hu, rfl⟩⟩

theorem endsWith_orElse_success_iff :
    rules.EndsWith read (p.orElse q) c (.success v d) ↔
      rules.EndsWith read p c (.success v d) ∨
        (∃ e, rules.EndsWith read p c (.failure e)) ∧
          rules.EndsWith read q c (.success v d) := by
  rw [endsWith_orElse_iff]
  refine or_congr ⟨?_, fun h => ⟨v, d, h, rfl⟩⟩ exists_and_right
  rintro ⟨v', d', h, he⟩
  obtain ⟨rfl, rfl⟩ := Outcome.success.inj he
  exact h

end successes

section endings

theorem exists_endsWith_bind {k : β → Grammar L ρ V γ} (hp : ∃ o, rules.EndsWith read p c o)
    (hk : ∀ v d, rules.EndsWith read p c (.success v d) → ∃ o, rules.EndsWith read (k v) d o) :
    ∃ o, rules.EndsWith read (p.bind k) c o := by
  obtain ⟨⟨v, d⟩ | e, ho⟩ := hp
  · obtain ⟨o, hkv⟩ := hk v d ho
    exact ⟨o, endsWith_bind_iff.mpr (Or.inl ⟨v, d, ho, hkv⟩)⟩
  · exact ⟨_, endsWith_bind_iff.mpr (Or.inr ⟨e, ho, rfl⟩)⟩

theorem exists_endsWith_map {f : β → γ} (hp : ∃ o, rules.EndsWith read p c o) :
    ∃ o, rules.EndsWith read (p.map f) c o :=
  exists_endsWith_bind hp fun v _ _ => ⟨_, endsWith_succeed (f v)⟩

theorem exists_endsWith_before {q : Grammar L ρ V γ} (hp : ∃ o, rules.EndsWith read p c o)
    (hq : ∀ v d, rules.EndsWith read p c (.success v d) → ∃ o, rules.EndsWith read q d o) :
    ∃ o, rules.EndsWith read (p.before q) c o :=
  exists_endsWith_bind hp fun v d hv => exists_endsWith_map (hq v d hv)

theorem exists_endsWith_orElse (hp : ∃ o, rules.EndsWith read p c o)
    (hq : ∃ o, rules.EndsWith read q c o) : ∃ o, rules.EndsWith read (p.orElse q) c o := by
  obtain ⟨⟨v, d⟩ | e, ho⟩ := hp
  · exact ⟨_, endsWith_orElse_iff.mpr (Or.inl ⟨v, d, ho, rfl⟩)⟩
  · obtain ⟨o, ho'⟩ := hq
    exact ⟨o, endsWith_orElse_iff.mpr (Or.inr ⟨e, ho, ho'⟩)⟩

/-- A grammar that comes to an end either succeeds or fails. -/
theorem endsWith_failure_iff (hp : ∃ o, rules.EndsWith read p c o) :
    (∃ e, rules.EndsWith read p c (.failure e)) ↔
      ∀ v d, ¬ rules.EndsWith read p c (.success v d) := by
  constructor
  · rintro ⟨e, he⟩ v d hv
    exact absurd (he.unique hv) (by simp)
  · intro hno
    obtain ⟨⟨v, d⟩ | e, ho⟩ := hp
    · exact absurd ho (hno v d)
    · exact ⟨e, ho⟩

theorem exists_failure_bind {k : β → Grammar L ρ V γ}
    (hp : ∃ e, rules.EndsWith read p c (.failure e)) :
    ∃ e, rules.EndsWith read (p.bind k) c (.failure e) := by
  obtain ⟨e, he⟩ := hp
  exact ⟨e, endsWith_bind_iff.mpr (Or.inr ⟨e, he, rfl⟩)⟩

theorem exists_failure_bind_of_success {k : β → Grammar L ρ V γ} {v : β}
    (hp : rules.EndsWith read p c (.success v d))
    (hk : ∃ e, rules.EndsWith read (k v) d (.failure e)) :
    ∃ e, rules.EndsWith read (p.bind k) c (.failure e) := by
  obtain ⟨e, he⟩ := hk
  exact ⟨e, endsWith_bind_iff.mpr (Or.inl ⟨v, d, hp, he⟩)⟩

theorem exists_failure_orElse (hp : ∃ e, rules.EndsWith read p c (.failure e))
    (hq : ∃ e, rules.EndsWith read q c (.failure e)) :
    ∃ e, rules.EndsWith read (p.orElse q) c (.failure e) := by
  obtain ⟨e, he⟩ := hp
  obtain ⟨e', he'⟩ := hq
  exact ⟨e', endsWith_orElse_iff.mpr (Or.inr ⟨e, he, he'⟩)⟩

end endings

/-- The grammar undoes `write` on the values for which `ok` holds: at the cursors of the set, it
succeeds with one of these exactly where its atoms come first, and it always comes to an end. -/
structure Undoes (rules : Rules L ρ V) (read : {β : Type} → L β → κ → Outcome κ ParseError β)
    (good : κ → Prop) (p : Grammar L ρ V β) (ok : β → Prop) (write : β → List α) : Prop where
  success_iff : ∀ c v d, good c →
    (rules.EndsWith read p c (.success v d) ↔ ok v ∧ Cursor.Passes c (write v) d)
  ends : ∀ c, good c → ∃ o, rules.EndsWith read p c o

variable {good : κ → Prop} {ok : β → Prop} {write : β → List α}

theorem undoes_leaf {l : L β}
    (h : ∀ c v d, good c → (read l c = .success v d ↔ ok v ∧ Cursor.Passes c (write v) d)) :
    rules.Undoes read good (.leaf l) ok write where
  success_iff c v d hc := endsWith_leaf_iff.trans (h c v d hc)
  ends _ _ := ⟨_, endsWith_leaf l⟩

namespace Undoes

theorem mono {good' : κ → Prop} (h : rules.Undoes read good p ok write)
    (hgood : ∀ c, good' c → good c) : rules.Undoes read good' p ok write where
  success_iff c v d hc := h.success_iff c v d (hgood c hc)
  ends c hc := h.ends c (hgood c hc)

theorem failure_iff (h : rules.Undoes read good p ok write) (w : Cursor.Walkable good)
    (hc : good c) :
    (∃ e, rules.EndsWith read p c (.failure e)) ↔
      ∀ v, ok v → ¬ write v <+: Cursor.remaining c := by
  rw [endsWith_failure_iff (h.ends c hc)]
  refine forall_congr' fun v => ?_
  constructor
  · intro hno hv hprefix
    obtain ⟨d, hd⟩ := w.exists_passes_of_isPrefix hc hprefix
    exact hno d ((h.success_iff c v d hc).mpr ⟨hv, hd⟩)
  · intro hno d hd
    obtain ⟨hv, hpasses⟩ := (h.success_iff c v d hc).mp hd
    exact hno hv hpasses.isPrefix

/-- What undoes a writing at each place where it does so at all later ones undoes it everywhere. -/
theorem of_later (w : Cursor.Ordered good)
    (h : ∀ c, good c → rules.Undoes read (fun d => good d ∧ Cursor.Precedes c d) p ok write →
      rules.Undoes read (· = c) p ok write) : rules.Undoes read good p ok write := by
  have hplace : ∀ c, good c → rules.Undoes read (· = c) p ok write := by
    intro c hc
    refine w.induction (motive := fun c => rules.Undoes read (· = c) p ok write)
      (fun c hc ih => h c hc ?_) hc
    exact ⟨fun e v d he => (ih e he.2).success_iff e v d rfl, fun e he => (ih e he.2).ends e rfl⟩
  exact ⟨fun c v d hc => (hplace c hc).success_iff c v d rfl, fun c hc => (hplace c hc).ends c rfl⟩

theorem advances (h : rules.Undoes read good p ok write) : rules.Advances read good p :=
  fun c v d hc hd => ((h.success_iff c v d hc).mp hd).2.reaches

theorem congr {ok' : β → Prop} {write' : β → List α} (h : rules.Undoes read good p ok write)
    (hok : ∀ v, ok' v ↔ ok v) (hwrite : ∀ v, write' v = write v) :
    rules.Undoes read good p ok' write' where
  success_iff c v d hc := by rw [h.success_iff c v d hc, hok, hwrite]
  ends := h.ends

theorem defer (h : rules.Undoes read good p ok write) (label : Option String) :
    rules.Undoes read good (.defer label p) ok write where
  success_iff c v d hc := endsWith_defer_iff.trans (h.success_iff c v d hc)
  ends := h.ends

section
variable (w : Cursor.Walkable good) (h : rules.Undoes read good p ok write)
include w h

/-- If the values of what comes second tell the value `f u` that came first, both are written one
after the other. -/
theorem bind {k : β → Grammar L ρ V γ} {ok' : γ → Prop} {write' : γ → List α} {f : γ → β}
    (hk : ∀ v, ok v → rules.Undoes read good (k v) (fun u => ok' u ∧ f u = v) write') :
    rules.Undoes read good (p.bind k) (fun u => ok (f u) ∧ ok' u)
      fun u => write (f u) ++ write' u where
  success_iff c u d hc := by
    rw [endsWith_bind_success_iff, w.passes_append_iff hc]
    constructor
    · rintro ⟨v, e, hv, hu⟩
      obtain ⟨hok, he⟩ := (h.success_iff c v e hc).mp hv
      obtain ⟨⟨hok', rfl⟩, hd⟩ := ((hk v hok).success_iff e u d (he.preserves hc w)).mp hu
      exact ⟨⟨hok, hok'⟩, e, he, hd⟩
    · rintro ⟨⟨hok, hok'⟩, e, he, hd⟩
      exact ⟨f u, e, (h.success_iff c (f u) e hc).mpr ⟨hok, he⟩,
        ((hk (f u) hok).success_iff e u d (he.preserves hc w)).mpr ⟨⟨hok', rfl⟩, hd⟩⟩
  ends c hc := by
    refine exists_endsWith_bind (h.ends c hc) fun v e hv => ?_
    obtain ⟨hok, he⟩ := (h.success_iff c v e hc).mp hv
    exact (hk v hok).ends e (he.preserves hc w)

/-- Behind a separator with only one value, a writing has the text of the separator in front. -/
theorem separated {s : Grammar L ρ V γ} {u : γ} {writeSeparator : γ → List α}
    (hs : rules.Undoes read good s (· = u) writeSeparator) :
    rules.Undoes read good (s.andThen p) ok fun v => writeSeparator u ++ write v := by
  have hsecond : ∀ v, v = u → rules.Undoes read good p (fun u' => ok u' ∧ u = v) write :=
    fun v hv => h.congr (fun _ => and_iff_left hv.symm) fun _ => rfl
  exact (hs.bind w hsecond).congr (fun _ => (and_iff_right rfl).symm) fun _ => rfl

/-- A number of repetitions undoes the writing of lists of that length. -/
theorem replicate (n : Nat) :
    rules.Undoes read good (p.replicate n) (fun vs => vs.length = n ∧ ∀ v ∈ vs, ok v)
      (List.flatMap write) := by
  induction n with
  | zero =>
    refine ⟨fun c vs d _ => ?_, fun c _ => ⟨_, endsWith_succeed []⟩⟩
    constructor
    · intro hvs
      obtain ⟨rfl, rfl⟩ := Outcome.success.inj (hvs.unique (endsWith_succeed []))
      exact ⟨⟨rfl, by simp⟩, .nil d⟩
    · rintro ⟨⟨hlength, -⟩, hd⟩
      obtain rfl := List.length_eq_zero_iff.mp hlength
      obtain rfl := Cursor.passes_nil_iff.mp hd
      exact endsWith_succeed []
  | succ n ih =>
    refine ⟨fun c vs d hc => ?_, fun c hc => ?_⟩
    · rw [Grammar.replicate, endsWith_bind_success_iff]
      simp only [endsWith_map_success_iff]
      constructor
      · rintro ⟨v, e, hv, us, hus, rfl⟩
        obtain ⟨hok, he⟩ := (h.success_iff c v e hc).mp hv
        obtain ⟨⟨hlength, hoks⟩, hd⟩ := (ih.success_iff e us d (he.preserves hc w)).mp hus
        exact ⟨⟨congrArg (· + 1) hlength, List.forall_mem_cons.mpr ⟨hok, hoks⟩⟩, he.append hd⟩
      · rintro ⟨⟨hlength, hoks⟩, hd⟩
        obtain ⟨v, us, rfl⟩ := List.exists_cons_of_length_eq_add_one hlength
        rw [List.flatMap_cons, w.passes_append_iff hc] at hd
        obtain ⟨e, he, hd⟩ := hd
        obtain ⟨hok, hoks⟩ := List.forall_mem_cons.mp hoks
        have hus := (ih.success_iff e us d (he.preserves hc w)).mpr
          ⟨⟨Nat.succ.inj hlength, hoks⟩, hd⟩
        exact ⟨v, e, (h.success_iff c v e hc).mpr ⟨hok, he⟩, us, hus, rfl⟩
    · refine exists_endsWith_bind (h.ends c hc) fun v e hv => exists_endsWith_map (ih.ends e ?_)
      exact ((h.success_iff c v e hc).mp hv).2.preserves hc w

end

section
variable (w : Cursor.Ordered good) (h : rules.Undoes read good p ok write)
  (hne : ∀ v, ok v → write v ≠ [])
include w h hne

theorem consumes : rules.Consumes read good p := by
  intro n c v d hc hd
  obtain ⟨hok, hpasses⟩ := (h.success_iff c v d hc).mp (endsWith_of_run hd)
  exact (w.precedes hc hpasses (hne v hok)).2

theorem round_iff (hc : good c) {v : β} :
    rules.Round read p c v d ↔ ok v ∧ Cursor.Passes c (write v) d := by
  rw [Round, h.success_iff c v d hc]
  constructor
  · exact fun h => h.1
  · exact fun ⟨hok, hd⟩ => ⟨⟨hok, hd⟩, w.precedes hc hd (hne v hok)⟩

/-- Rounds undo the writing of lists. -/
theorem rounds_iff (hc : good c) {vs : List β} :
    Rounds (rules.Round read p) c vs d ↔
      (∀ v ∈ vs, ok v) ∧ Cursor.Passes c (vs.flatMap write) d := by
  induction vs generalizing c with
  | nil =>
    rw [List.flatMap_nil, Cursor.passes_nil_iff]
    constructor
    · rintro ⟨⟩
      exact ⟨fun v hv => absurd hv List.not_mem_nil, rfl⟩
    · rintro ⟨-, rfl⟩
      exact .nil d
  | cons v vs ih =>
    rw [List.flatMap_cons, w.passes_append_iff hc, List.forall_mem_cons]
    constructor
    · rintro (_ | ⟨hround, hrounds⟩)
      obtain ⟨hok, he⟩ := (h.round_iff w hne hc).mp hround
      obtain ⟨hoks, hd⟩ := (ih (he.preserves hc w.toWalkable)).mp hrounds
      exact ⟨⟨hok, hoks⟩, _, he, hd⟩
    · rintro ⟨⟨hok, hoks⟩, e, he, hd⟩
      exact .cons ((h.round_iff w hne hc).mpr ⟨hok, he⟩)
        ((ih (he.preserves hc w.toWalkable)).mpr ⟨hoks, hd⟩)

/-- A repetition undoes the writing of a list that no further item follows. -/
theorem many_success_iff (hc : good c) {vs : List β} :
    rules.EndsWith read (.many p) c (.success vs d) ↔
      (∀ v ∈ vs, ok v) ∧ Cursor.Passes c (vs.flatMap write) d ∧
        ∀ v, ok v → ¬ write v <+: Cursor.remaining d := by
  rw [← and_assoc, ← h.rounds_iff w hne hc, (repeatsInRounds w h.advances hc).endsWith_iff]
  constructor
  · rintro ⟨vs', last, hrounds, ⟨hfails, ho⟩ | ⟨v, hv, -⟩⟩
    · obtain ⟨rfl, rfl⟩ := Outcome.success.inj ho
      have hgood : good d := (reaches_of_rounds hrounds).preserves w.next_mem hc
      exact ⟨hrounds, (h.failure_iff w.toWalkable hgood).mp hfails⟩
    · -- A last round that takes nothing would have written something.
      have hgood : good last := (reaches_of_rounds hrounds).preserves w.next_mem hc
      obtain ⟨hok, hpasses⟩ := (h.success_iff last v last hgood).mp hv
      exact absurd (w.precedes hgood hpasses (hne v hok)).2 (Nat.lt_irrefl _)
  · rintro ⟨hrounds, hno⟩
    have hgood : good d := (reaches_of_rounds hrounds).preserves w.next_mem hc
    exact ⟨vs, d, hrounds, Or.inl ⟨(h.failure_iff w.toWalkable hgood).mpr hno, rfl⟩⟩

omit hne in
theorem exists_success_many (hc : good c) :
    ∃ vs d, rules.EndsWith read (.many p) c (.success vs d) := by
  obtain ⟨o, n, hn⟩ := (repeatsInRounds w h.advances hc).ends fun _ d hrounds =>
    h.ends d ((reaches_of_rounds hrounds).preserves w.next_mem hc)
  obtain ⟨vs, d, rfl⟩ := Parser.success_of_many (hn n (Nat.le_refl n))
  exact ⟨vs, d, n, hn⟩

/-- A repetition with separators undoes the writing of a list with separators in between that no
further item follows; behind an item, one would follow with a separator in front of it. -/
theorem sepBy_success_iff {s : Grammar L ρ V γ} {u : γ} {writeSeparator : γ → List α}
    (hs : rules.Undoes read good s (· = u) writeSeparator) (hc : good c) {vs : List β} :
    rules.EndsWith read (.sepBy p s) c (.success vs d) ↔
      (∀ v ∈ vs, ok v) ∧ Cursor.Passes c ((writeSeparator u).intercalate (vs.map write)) d ∧
        ∀ v, ok v → ¬ (if vs = [] then [] else writeSeparator u) ++ write v <+:
          Cursor.remaining d := by
  have hround := h.separated w.toWalkable hs
  have hround_ne : ∀ v, ok v → writeSeparator u ++ write v ≠ [] :=
    fun v hv hnil => hne v hv (List.append_eq_nil_iff.mp hnil).2
  rw [(repetitionsAgree w h.advances hs.advances hc).of_consuming (Or.inl (h.consumes w hne))]
  cases vs with
  | nil =>
    rw [List.map_nil, List.intercalate_nil, Cursor.passes_nil_iff, if_pos rfl]
    constructor
    · rintro (⟨v, item, vs, rest, -, -, ho⟩ | ⟨e, he, ho⟩)
      · simp at ho
      · obtain ⟨-, rfl⟩ := Outcome.success.inj ho
        exact ⟨by simp, rfl, (h.failure_iff w.toWalkable hc).mp ⟨e, he⟩⟩
    · rintro ⟨-, rfl, hno⟩
      obtain ⟨e, he⟩ := (h.failure_iff w.toWalkable hc).mpr hno
      exact Or.inr ⟨e, he, rfl⟩
  | cons v vs =>
    rw [intercalate_map_cons, w.passes_append_iff hc, List.forall_mem_cons,
      if_neg (List.cons_ne_nil v vs)]
    constructor
    · rintro (⟨v', item, vs', rest, hitem, hrest, ho⟩ | ⟨e, -, ho⟩)
      · obtain ⟨hvs, rfl⟩ := Outcome.success.inj ho
        obtain ⟨rfl, rfl⟩ := List.cons.inj hvs
        obtain ⟨hok, hpasses⟩ := (h.success_iff c v item hc).mp hitem
        have hgood : good item := hpasses.preserves hc w.toWalkable
        obtain ⟨hoks, hd, hno⟩ := (hround.many_success_iff w hround_ne hgood).mp hrest
        exact ⟨⟨hok, hoks⟩, ⟨item, hpasses, hd⟩, hno⟩
      · simp at ho
    · rintro ⟨⟨hok, hoks⟩, ⟨item, hpasses, hd⟩, hno⟩
      have hgood : good item := hpasses.preserves hc w.toWalkable
      exact Or.inl ⟨v, item, vs, d, (h.success_iff c v item hc).mpr ⟨hok, hpasses⟩,
        (hround.many_success_iff w hround_ne hgood).mpr ⟨hoks, hd, hno⟩, rfl⟩

omit hne in
theorem exists_endsWith_sepBy {s : Grammar L ρ V γ} {okSeparator : γ → Prop}
    {writeSeparator : γ → List α} (hs : rules.Undoes read good s okSeparator writeSeparator)
    (hc : good c) : ∃ o, rules.EndsWith read (.sepBy p s) c o := by
  refine (separatesInRounds w h.advances hs.advances hc).ends fun _ d hrounds => ?_
  have hgood : good d := (reaches_of_separatedRounds hrounds).preserves w.next_mem hc
  exact ⟨h.ends d hgood, fun v item hitem =>
    hs.ends item ((h.advances d v item hgood hitem).preserves w.next_mem hgood)⟩

end

end Undoes

section leaves
variable {κ α ρ V : Type} [Cursor κ α] [BEq α] [Atom α] {good : κ → Prop}
  (w : Cursor.Trackable good) (rules : Rules (Leaf α) ρ V)
include w

theorem undoes_satisfying (expected : String) (accepts : α → Bool) :
    rules.Undoes Leaf.read good (.leaf (.satisfying expected accepts)) (accepts · = true)
      fun a => [a] :=
  undoes_leaf fun _ _ _ hc => Leaf.readSatisfying_eq_success_iff w hc

theorem undoes_any : rules.Undoes Leaf.read good (.leaf .any) (fun _ => True) fun a => [a] :=
  undoes_leaf fun _ _ _ hc => (Leaf.readAny_eq_success_iff w hc).trans (and_iff_right trivial).symm

theorem undoes_exactly [LawfulBEq α] (x : α) :
    rules.Undoes Leaf.read good (.leaf (.exactly x)) (· = x) fun a => [a] :=
  undoes_leaf fun _ _ _ hc => Leaf.readExactly_eq_success_iff w hc

theorem undoes_literal [LawfulBEq α] (xs : List α) :
    rules.Undoes Leaf.read good (.leaf (.literal xs)) (· = xs) id :=
  undoes_leaf fun _ _ _ hc => Leaf.readLiteral_eq_success_iff w hc

end leaves

section text
variable {ρ V β : Type} (rules : Rules TextLeaf ρ V)

theorem undoes_tag (s : List Char) :
    rules.Undoes TextLeaf.read TextCursor.OnBoundary (.leaf (.inr (.tag s))) (· = s) id :=
  undoes_leaf fun _ _ _ hc => Stretch.readTag_eq_success_iff hc

theorem undoes_character (expected : String) (accepts : Char → Bool) :
    rules.Undoes TextLeaf.read TextCursor.OnBoundary (.leaf (.inl (.satisfying expected accepts)))
      (accepts · = true) fun ch => [ch] :=
  undoes_leaf fun _ _ _ hc => Leaf.readSatisfying_eq_success_iff TextCursor.trackable hc

variable {rules} {p : Grammar TextLeaf ρ V β} {s opening closing : List Char}
  {c b m d : TextCursor}

theorem endsWith_tag (hc : c.OnBoundary) (hd : Cursor.Passes c s d) :
    rules.EndsWith TextLeaf.read (.leaf (.inr (.tag s))) c (.success s d) :=
  ((rules.undoes_tag s).success_iff c s d hc).mpr ⟨rfl, hd⟩

/-- A repetition of one character takes those accepted, up to one that is not. -/
theorem endsWith_many_character_iff {expected : String} {accepts : Char → Bool} {cs : List Char}
    (hc : c.OnBoundary) :
    rules.EndsWith TextLeaf.read (.many (.leaf (.inl (.satisfying expected accepts)))) c
        (.success cs d) ↔
      (∀ ch ∈ cs, accepts ch = true) ∧ Cursor.Passes c cs d ∧
        ∀ ch ∈ d.remaining.head?, accepts ch = false := by
  have hcharacter := rules.undoes_character expected accepts
  rw [hcharacter.many_success_iff TextCursor.ordered (fun _ _ => List.cons_ne_nil _ _) hc,
    List.flatMap_singleton']
  refine and_congr_right fun _ => and_congr_right fun _ => ?_
  change (∀ ch : Char, accepts ch = true → ¬ [ch] <+: d.remaining) ↔ _
  cases d.remaining with
  | nil => simp
  | cons first s =>
    simp only [List.cons_prefix_cons, List.nil_prefix, and_true, List.head?_cons,
      Option.mem_some_iff]
    grind

theorem exists_failure_tag (hc : c.OnBoundary) (h : ¬ s <+: c.remaining) :
    ∃ e, rules.EndsWith TextLeaf.read (.leaf (.inr (.tag s))) c (.failure e) := by
  refine ((rules.undoes_tag s).failure_iff TextCursor.walkable hc).mpr ?_
  rintro _ rfl
  exact h

theorem endsWith_between {v : β} (hc : c.OnBoundary) (hb : Cursor.Passes c opening b)
    (hp : rules.EndsWith TextLeaf.read p b (.success v m)) (hm : m.OnBoundary)
    (hd : Cursor.Passes m closing d) :
    rules.EndsWith TextLeaf.read (p.between opening closing) c (.success v d) := by
  rw [Grammar.between, endsWith_before_success_iff]
  refine ⟨m, closing, endsWith_andThen_success_iff.mpr ⟨opening, b, ?_, hp⟩, ?_⟩
  · exact endsWith_tag hc hb
  · exact endsWith_tag hm hd

theorem exists_of_between {v : β} (hc : c.OnBoundary)
    (h : rules.EndsWith TextLeaf.read (p.between opening closing) c (.success v d)) :
    ∃ b m, Cursor.Passes c opening b ∧ rules.EndsWith TextLeaf.read p b (.success v m) ∧
      (m.OnBoundary → Cursor.Passes m closing d) := by
  rw [Grammar.between, endsWith_before_success_iff] at h
  obtain ⟨m, u, hopened, hclosed⟩ := h
  obtain ⟨s, b, hs, hp⟩ := endsWith_andThen_success_iff.mp hopened
  obtain ⟨rfl, hb⟩ := ((rules.undoes_tag opening).success_iff c s b hc).mp hs
  refine ⟨b, m, hb, hp, fun hm => ?_⟩
  obtain ⟨rfl, hd⟩ := ((rules.undoes_tag closing).success_iff m u d hm).mp hclosed
  exact hd

theorem exists_endsWith_between (hc : c.OnBoundary)
    (hp : ∀ b, Cursor.Passes c opening b → ∃ o, rules.EndsWith TextLeaf.read p b o) :
    ∃ o, rules.EndsWith TextLeaf.read (p.between opening closing) c o := by
  refine exists_endsWith_before (exists_endsWith_bind ?_ fun s b hs => hp b ?_) fun _ m _ => ?_
  · exact (rules.undoes_tag opening).ends c hc
  · obtain ⟨rfl, hb⟩ := ((rules.undoes_tag opening).success_iff c s b hc).mp hs
    exact hb
  · exact ⟨_, endsWith_leaf _⟩

theorem exists_failure_unopened (hc : c.OnBoundary) (h : ¬ opening <+: c.remaining) :
    ∃ e, rules.EndsWith TextLeaf.read (p.between opening closing) c (.failure e) :=
  exists_failure_bind (exists_failure_bind (exists_failure_tag hc h))

theorem exists_failure_unclosed {v : β} (hc : c.OnBoundary) (hb : Cursor.Passes c opening b)
    (hp : rules.EndsWith TextLeaf.read p b (.success v m)) (hm : m.OnBoundary)
    (h : ¬ closing <+: m.remaining) :
    ∃ e, rules.EndsWith TextLeaf.read (p.between opening closing) c (.failure e) := by
  have hopened := endsWith_andThen_success_iff.mpr ⟨opening, b, endsWith_tag hc hb, hp⟩
  exact exists_failure_bind_of_success hopened (exists_failure_bind (exists_failure_tag hm h))

end text

end Rules
end Descent
