import Mathlib.Data.List.FinRange
import Descent.Proofs.Forward.LifeCycle

/-!
# Recursion through declarations

Grammars that call each other can be put into a store, with one declaration for each and a copy of
it wherever one is called. Whatever is run then runs as if the grammars were unfolded at every call,
events included, as long as the owners are kept.
-/
namespace Descent

variable {L : Type → Type} {ρ σ τ V κ α β : Type}

theorem Grammar.rename_rename (f : ρ → σ) (f' : σ → τ) (g : Grammar L ρ V β) :
    (g.rename f).rename f' = g.rename fun r => f' (f r) := by
  induction g with
  | leaf l => rfl
  | succeed v => rfl
  | reject message => rfl
  | orElse p q ihp ihq => exact congrArg₂ orElse ihp ihq
  | bind p k ihp ihk => exact congrArg₂ bind ihp (funext ihk)
  | many p ih => exact congrArg many ih
  | sepBy p s ihp ihs => exact congrArg₂ sepBy ihp ihs
  | defer label p ih => exact congrArg (defer label) ih
  | traced name p ih => exact congrArg (traced name) ih
  | call r => rfl

section
variable [Cursor κ α] {read : {β : Type} → L β → κ → Outcome κ ParseError β}

/-- Other names for what is called do not matter if they stand for the same. -/
theorem Grammar.parser_rename (f : ρ → σ) (callee : σ → Parser κ V) (budget : Nat)
    (g : Grammar L ρ V β) :
    (g.rename f).parser read callee budget = g.parser read (fun r => callee (f r)) budget := by
  induction g with
  | leaf l => rfl
  | succeed v => rfl
  | reject message => rfl
  | orElse p q ihp ihq => exact congrArg₂ Parser.orElse ihp ihq
  | bind p k ihp ihk => exact congrArg₂ Parser.bind ihp (funext ihk)
  | many p ih => exact congrArg (Parser.many · budget) ih
  | sepBy p s ihp ihs => exact congrArg₂ (Parser.sepBy · · budget) ihp ihs
  | defer label p ih => exact congrArg (Parser.defer label) ih
  | traced name p ih => exact congrArg (Parser.traced name) ih
  | call r => rfl

/-- A system under other names runs as the system does. -/
theorem Rules.run_rename {rules : Rules L ρ V} {rules' : Rules L σ V} (f : ρ → σ)
    (hrules : ∀ r, rules' (f r) = (rules r).map (·.rename f)) (budget : Nat)
    (g : Grammar L ρ V β) : rules'.run read budget (g.rename f) = rules.run read budget g := by
  have hcall : ∀ n r, rules'.parser read n (f r) = rules.parser read n r := by
    intro n
    induction n with
    | zero => exact fun _ => rfl
    | succ n ih =>
      intro r
      rw [Rules.parser, Rules.parser, hrules]
      cases rules r with
      | error m => rfl
      | ok body =>
        show (body.rename f).parser read (rules'.parser read n) n = _
        rw [Grammar.parser_rename, funext ih]
  rw [Rules.run, Rules.run, Grammar.parser_rename]
  exact congrArg (g.parser read · budget) (funext (hcall budget))

end

namespace Forward

/-- Finitely many grammars, each with a label of its own, that call each other by number. -/
structure System (L : Type → Type) (V : Type) where
  size : Nat
  label : Fin size → String
  label_injective : Function.Injective label
  body : Fin size → Grammar L (Fin size) V V

namespace System
variable (sys : System L V)

def rules : Rules L (Fin sys.size) V := fun i => .ok (sys.body i)

/-- The grammar with copies of the declarations for what it calls. -/
def draft (taken : List (Fin sys.size)) (g : Grammar L (Fin sys.size) V V) : Draft L ρ V where
  captures := taken.map fun i => .copied (sys.label i)
  body := g.rename fun i => .inr (sys.label i)

def declarations : List (Command L ρ V κ) :=
  (List.finRange sys.size).map fun i => .declare (sys.label i)

def definitions (taken : Fin sys.size → List (Fin sys.size)) : List (Command L ρ V κ) :=
  (List.finRange sys.size).map fun i => .define (sys.label i) (sys.draft (taken i) (sys.body i))

/-- One declaration for each grammar, and then all definitions. -/
def setUp (taken : Fin sys.size → List (Fin sys.size)) : List (Command L ρ V κ) :=
  sys.declarations ++ sys.definitions taken

/-- Every label names a handle of the slot with its number. -/
def Named (st : Store L ρ V) : Prop :=
  ∀ i : Fin sys.size, (st.find? (sys.label i)).bind Store.slotOf = some i.val

/-- The slots hold the grammars, with each other's slots for what these call. -/
def Installed (st : Store L ρ V) : Prop :=
  ∀ i : Fin sys.size, ∃ held,
    st.slots[i.val]? = some (.defined ⟨(sys.body i).rename fun j => .slot j, held⟩)

end System

namespace Store
variable {sys : System L V} {st st' after : Store L ρ V} {name : String} {h : Handle}

section declaring

theorem forget_of_find?_eq_none (hnone : st.find? name = none) : st.forget name = st := by
  have hfilter : st.handles.filter (·.1 != name) = st.handles := by
    refine List.filter_eq_self.mpr fun entry hentry => ?_
    have hne := List.find?_eq_none.mp (Option.map_eq_none_iff.mp hnone) entry hentry
    simpa using hne
  rw [forget, hfilter]

theorem put_of_find?_eq_none (st : Store L ρ V) (hnone : st.find? name = none) (h : Handle) :
    st.put name h = { st with handles := st.handles ++ [(name, h)] } := by
  simp [put, hnone, forget_of_find?_eq_none hnone, release]

theorem find?_of_mem (hn : (st.handles.map (·.1)).Nodup) (hm : (name, h) ∈ st.handles) :
    st.find? name = some h := by
  cases hf : st.handles.find? (·.1 == name) with
  | none =>
    have hne := List.find?_eq_none.mp hf _ hm
    simp at hne
  | some entry =>
    have hname : entry.1 = name := by simpa using List.find?_some hf
    have he := List.inj_on_of_nodup_map hn (List.mem_of_find?_eq_some hf) hm hname
    rw [find?, hf, he]
    rfl

/-- Declarations under new names are owned by the table, in order. -/
theorem performAll_declare [Cursor κ α] (st : Store L ρ V) (outside : Rules L ρ V)
    (read : {β : Type} → L β → κ → Outcome κ ParseError β) (budget : Nat) (names : List String)
    (hn : names.Nodup) (hfresh : ∀ name ∈ names, st.find? name = none) :
    st.performAll outside read budget (names.map .declare) =
      some (names.map fun _ => .done, { st with
        handles := st.handles ++ (names.zipIdx st.slots.length).map fun p => (p.1, .owner p.2)
        slots := st.slots ++ List.replicate names.length .undefined }) := by
  induction names generalizing st with
  | nil => simp [performAll]
  | cons name names ih =>
    obtain ⟨hnotin, hn⟩ := List.nodup_cons.mp hn
    have hdeclare : st.declare name = { st with
        handles := st.handles ++ [(name, .owner st.slots.length)]
        slots := st.slots ++ [.undefined] } :=
      put_of_find?_eq_none { st with slots := st.slots ++ [.undefined] }
        (hfresh name List.mem_cons_self) _
    have hnext : ∀ other ∈ names, (st.declare name).find? other = none := by
      intro other hother
      have hne : name ≠ other := fun he => hnotin (he ▸ hother)
      have hold := hfresh other (List.mem_cons_of_mem name hother)
      rw [hdeclare, find?, List.find?_append, Option.map_eq_none_iff.mp hold]
      simp [hne]
    have hrest := ih (st.declare name) hn hnext
    rw [hdeclare] at hrest
    rw [List.map_cons, performAll_cons _ (by rw [perform, hdeclare]) hrest]
    simp [List.replicate_succ]

end declaring

section building

theorem capture_copied (names : List String) (hfound : ∀ name ∈ names, ∃ h, st.find? name = some h) :
    ∃ held, st.capture (names.map .copied) = some (held, st) := by
  induction names with
  | nil => exact ⟨[], rfl⟩
  | cons name names ih =>
    obtain ⟨h, hname⟩ := hfound name List.mem_cons_self
    obtain ⟨held, hcapture⟩ := ih fun other hother => hfound other (List.mem_cons_of_mem name hother)
    exact ⟨h.copy :: held, by simp [capture, hname, hcapture]⟩

theorem resolve_label (hnamed : sys.Named st) (i : Fin sys.size) :
    st.resolve (.inr (sys.label i)) = (.slot i : Target ρ) := by
  obtain ⟨h, hfind, hslot⟩ := Option.bind_eq_some_iff.mp (hnamed i)
  simp [resolve, hfind, target_of_slotOf hslot]

/-- With all labels in the table, a draft is built without a change to the store, and calls the slots
that the labels stand for. -/
theorem assemble_draft (hnamed : sys.Named st) (taken : List (Fin sys.size))
    (g : Grammar L (Fin sys.size) V V) :
    ∃ held, st.assemble (sys.draft taken g) = some (⟨g.rename fun i => .slot i, held⟩, st) := by
  have hfound : ∀ name ∈ taken.map sys.label, ∃ h, st.find? name = some h := by
    intro name hname
    obtain ⟨i, -, rfl⟩ := List.mem_map.mp hname
    obtain ⟨h, hfind, -⟩ := Option.bind_eq_some_iff.mp (hnamed i)
    exact ⟨h, hfind⟩
  obtain ⟨held, hcapture⟩ := capture_copied _ hfound
  refine ⟨held, ?_⟩
  rw [List.map_map] at hcapture
  simp only [assemble, System.draft, Grammar.rename_rename, resolve_label hnamed]
  simp [show st.capture (taken.map fun i => .copied (sys.label i)) = some (held, st) from hcapture]

variable [Cursor κ α] (outside : Rules L ρ V)
  (read : {β : Type} → L β → κ → Outcome κ ParseError β) (budget : Nat)

/-- The definitions fill the slots one after the other. -/
theorem performAll_define (taken : Fin sys.size → List (Fin sys.size)) (is : List (Fin sys.size))
    (hn : is.Nodup) (hnamed : sys.Named st) (hempty : ∀ i ∈ is, st.slots[i.val]? = some .undefined)
    (hdone : ∀ i ∉ is, ∃ held,
      st.slots[i.val]? = some (.defined ⟨(sys.body i).rename fun j => .slot j, held⟩)) :
    ∃ answers st', st.performAll outside read budget
        (is.map fun i => .define (sys.label i) (sys.draft (taken i) (sys.body i))) =
          some (answers, st') ∧ st'.handles = st.handles ∧ sys.Installed st' := by
  induction is generalizing st with
  | nil => exact ⟨[], st, rfl, rfl, fun i => hdone i List.not_mem_nil⟩
  | cons i is ih =>
    obtain ⟨hnotin, hn⟩ := List.nodup_cons.mp hn
    obtain ⟨held, ha⟩ := assemble_draft hnamed (taken i) (sys.body i)
    have hi : st.slots[i.val]? = some .undefined := hempty i List.mem_cons_self
    have hlt : i.val < st.slots.length := (List.getElem?_eq_some_iff.mp hi).1
    have hdefine := perform_define outside read budget ha (hnamed i) hi
    rw [fill_undefined hi] at hdefine
    let filled : Store L ρ V := { st with
      slots := st.slots.set i (.defined ⟨(sys.body i).rename fun j => .slot j, held⟩) }
    have hempty' : ∀ j ∈ is, filled.slots[j.val]? = some .undefined := by
      intro j hj
      have hne : i.val ≠ j.val := fun he => hnotin (Fin.ext he ▸ hj)
      exact (List.getElem?_set_ne hne).trans (hempty j (List.mem_cons_of_mem i hj))
    have hdone' : ∀ j ∉ is, ∃ held,
        filled.slots[j.val]? = some (.defined ⟨(sys.body j).rename fun j => .slot j, held⟩) := by
      intro j hj
      by_cases hij : i = j
      · subst hij
        exact ⟨held, List.getElem?_set_self hlt⟩
      · have hne : i.val ≠ j.val := fun he => hij (Fin.ext he)
        have hnotin' : j ∉ i :: is := fun hmem =>
          (List.mem_cons.mp hmem).elim (fun he => hij he.symm) hj
        obtain ⟨held', hs⟩ := hdone j hnotin'
        exact ⟨held', (List.getElem?_set_ne hne).trans hs⟩
    obtain ⟨answers, st', hrest, hhandles, hinstalled⟩ := @ih filled hn hnamed hempty' hdone'
    exact ⟨_, st', performAll_cons filled hdefine hrest, hhandles, hinstalled⟩

/-- The whole of a system finds its place in an empty store, and the table owns it. -/
theorem performAll_setUp (sys : System L V) (taken : Fin sys.size → List (Fin sys.size)) :
    ∃ answers st, ({} : Store L ρ V).performAll outside read budget (sys.setUp taken) =
        some (answers, st) ∧
      (∀ i, st.find? (sys.label i) = some (.owner i)) ∧ sys.Installed st := by
  let names := (List.finRange sys.size).map sys.label
  let declared : Store L ρ V := {
    handles := (names.zipIdx 0).map fun p => (p.1, .owner p.2)
    slots := List.replicate sys.size .undefined }
  have hnames : names.Nodup := (List.nodup_finRange sys.size).map sys.label_injective
  have hdeclare : ({} : Store L ρ V).performAll outside read budget sys.declarations =
      some (names.map fun _ => .done, declared) := by
    have h := performAll_declare {} outside read budget names hnames fun _ _ => rfl
    simpa [names, declared, System.declarations, Function.comp_def] using h
  have hfind : ∀ i, declared.find? (sys.label i) = some (.owner i) := by
    intro i
    refine find?_of_mem ?_ (List.mem_map.mpr ⟨(sys.label i, i.val), ?_, rfl⟩)
    · rw [List.map_map]
      simpa [Function.comp_def] using hnames
    · rw [List.mem_zipIdx_iff_getElem?]
      simp [names]
  have hnamed : sys.Named declared := fun i => by rw [hfind i]; rfl
  obtain ⟨answers, st, hdefine, hhandles, hinstalled⟩ :=
    performAll_define outside read budget taken
      (List.finRange sys.size) (List.nodup_finRange _) hnamed
      (fun i _ => by simp [declared]) (fun i hi => absurd (List.mem_finRange i) hi)
  refine ⟨_, st, performAll_append declared hdeclare hdefine, fun i => ?_, hinstalled⟩
  rw [find?, hhandles]
  exact hfind i

end building

section running
variable [Cursor κ α] {outside : Rules L ρ V}
  {read : {β : Type} → L β → κ → Outcome κ ParseError β} {budget : Nat}

/-- Running through the slots is running the system itself. -/
theorem run_of_installed (hinstalled : sys.Installed st) (outside : Rules L ρ V) (budget : Nat)
    (g : Grammar L (Fin sys.size) V β) :
    (st.rules outside).run read budget (g.rename fun i => .slot i) =
      sys.rules.run read budget g := by
  refine Rules.run_rename _ (fun i => ?_) budget g
  obtain ⟨held, hs⟩ := hinstalled i
  rw [rules_slot outside hs]
  rfl

theorem installed_of_alive (hinstalled : sys.Installed st)
    (hbecomes : ∀ (s : Nat) slot, st.slots[s]? = some slot →
      ∃ slot', st'.slots[s]? = some slot' ∧ slot.Becomes slot')
    (halive : ∀ i : Fin sys.size, st'.Alive (.slot i)) : sys.Installed st' := by
  intro i
  obtain ⟨held, hs⟩ := hinstalled i
  exact ⟨held, defined_of_becomes (hbecomes i _ hs) (halive i)⟩

theorem boxes_release (st : Store L ρ V) (pending : List Handle) (b : Nat) :
    (st.release pending).boxes[b]? = st.boxes[b]? ∨
      (st.release pending).boxes[b]? = some none := by
  fun_induction Store.release st pending with
  | case1 st => exact Or.inl rfl
  | case6 st b' hs box hbox hmem ih =>
    rcases ih with he | hgone
    · rw [he]
      by_cases hb : b' = b
      · subst hb
        exact Or.inr (List.getElem?_set_self (List.getElem?_eq_some_iff.mp hbox).1)
      · exact Or.inl (List.getElem?_set_ne hb)
    · exact Or.inr hgone
  | case2 st s hs ih => exact ih
  | case3 st s hs slot hslot ih => exact ih
  | case4 st s hs hslot ih => exact ih
  | case5 st b hs box hbox hmem ih => exact ih
  | case7 st b hs hbox ih => exact ih

/-- What was put into a new box under a name is what the name parses as. -/
theorem perform_parse_addBox {d : Definition L ρ V} (t : (st.addBox name d).Tally [])
    (outside : Rules L ρ V) (budget : Nat) (start : κ) :
    (st.addBox name d).perform outside read budget (.parse name start) =
      some (.parsed (match budget with
        | 0 => Run.exhausted
        | n + 1 => ((st.addBox name d).rules outside).run read n d.grammar start),
        st.addBox name d) := by
  have hfind : (st.addBox name d).find? name = some (.boxed st.boxes.length) := find?_put _ _ _
  obtain ⟨d', hd'⟩ := (t.alive_iff_mem (.box st.boxes.length)).mpr
    (List.mem_append_left [] (find?_mem hfind))
  have hbox : (st.addBox name d).boxes[st.boxes.length]? = some (some d) := by
    rcases boxes_release _ _ st.boxes.length with he | hgone
    · exact he.trans List.getElem?_concat_length
    · rw [addBox, put, hgone] at hd'
      simp at hd'
  have hrule : (st.addBox name d).rules outside (.box st.boxes.length) = .ok d.grammar := by
    simp [Store.rules, hbox]
  simp only [perform, Store.parser, hfind, Option.map_some, Handle.target]
  cases budget with
  | zero => rfl
  | succ n => rw [Rules.run_call_succ hrule]

theorem becomes_of_wanes (w : Wanes st st') (s : Nat) (slot : Slot L ρ V)
    (hs : st.slots[s]? = some slot) : ∃ slot', st'.slots[s]? = some slot' ∧ slot.Becomes slot' := by
  have hstep := w.step (fun _ => False) s
  rw [hs] at hstep
  exact hstep.becomes

/-- Grammars that call each other parse through declarations as they do by themselves. Each is
declared and then defined, with copies of the declarations for what it calls. The program may go on
as it likes. At any later time, as long as the owners are kept, a grammar over the declarations
runs as the same grammar over the system, within every budget. Built from copies of the
declarations and parsed by a command, it comes to an end exactly if the grammar over the system
does, with the same outcome after the same events. -/
theorem declared_system_runs (sys : System L V) (taken : Fin sys.size → List (Fin sys.size))
    (outside : Rules L ρ V) (read : {β : Type} → L β → κ → Outcome κ ParseError β)
    (budget : Nat) :
    ∃ answers st, ({} : Store L ρ V).performAll outside read budget (sys.setUp taken) =
        some (answers, st) ∧
      (∀ i, st.find? (sys.label i) = some (.owner i)) ∧
      ∀ later answers' st', st.performAll outside read budget later = some (answers', st') →
        sys.Named st' →
        ((∀ i : Fin sys.size, st'.Alive (.slot i)) →
          ∀ {β : Type} (g : Grammar L (Fin sys.size) V β) (n : Nat),
            (st'.rules outside).run read n (g.rename fun i => st'.resolve (.inr (sys.label i))) =
              sys.rules.run read n g) ∧
        ∀ (goal : String) (takenBy : List (Fin sys.size)) (g : Grammar L (Fin sys.size) V V),
          ∃ st'', st'.build goal (sys.draft takenBy g) = some st'' ∧
            ((∀ i : Fin sys.size, st''.Alive (.slot i)) →
              ∀ (start : κ) (r : Run κ V), r.outcome? ≠ none →
                ((∃ n, st''.perform outside read n (.parse goal start) = some (.parsed r, st'')) ↔
                  ∃ n, sys.rules.run read n g start = r)) := by
  obtain ⟨answers, st, hsetUp, hfind, hinstalled⟩ :=
    performAll_setUp outside read budget sys taken
  refine ⟨answers, st, hsetUp, hfind, ?_⟩
  intro later answers' st' hlater hnamed
  have t := tally_empty.performAll hsetUp
  have hbecomes : ∀ (s : Nat) slot, st.slots[s]? = some slot →
      ∃ slot', st'.slots[s]? = some slot' ∧ slot.Becomes slot' :=
    fun s slot hs => t.performAll_becomes hlater hs
  constructor
  · intro halive β g n
    rw [funext (resolve_label hnamed)]
    exact run_of_installed (installed_of_alive hinstalled hbecomes halive) outside n g
  · intro goal takenBy g
    obtain ⟨held, ha⟩ := assemble_draft hnamed takenBy g
    let d : Definition L ρ V := ⟨g.rename fun i => .slot i, held⟩
    have hbuild : st'.build goal (sys.draft takenBy g) = some (st'.addBox goal d) := by
      rw [build, ha]
      rfl
    refine ⟨st'.addBox goal d, hbuild, fun halive start r hr => ?_⟩
    have t'' := (t.performAll hlater).build hbuild
    have hinstalled'' : sys.Installed (st'.addBox goal d) := by
      refine installed_of_alive hinstalled (fun s slot hs => ?_) halive
      obtain ⟨mid, hmid, hto⟩ := hbecomes s slot hs
      obtain ⟨last, hlast, hto'⟩ := becomes_of_wanes (wanes_addBox st' goal d) s mid hmid
      exact ⟨last, hlast, hto.trans hto'⟩
    constructor
    · rintro ⟨n, hn⟩
      rw [perform_parse_addBox t''] at hn
      obtain rfl := Answer.parsed.inj (congrArg Prod.fst (Option.some.inj hn))
      cases n with
      | zero => exact absurd rfl hr
      | succ n => exact ⟨n, by rw [← run_of_installed hinstalled'' outside n g]⟩
    · rintro ⟨n, rfl⟩
      refine ⟨n + 1, ?_⟩
      rw [perform_parse_addBox t'', ← run_of_installed hinstalled'' outside n g]

theorem find?_put_of_ne {other : String} (st : Store L ρ V) (hne : other ≠ name) (h : Handle) :
    (st.put name h).find? other = st.find? other := by
  have hforget : (st.forget name).find? other = st.find? other := by
    rw [find?_forget, if_neg hne]
  have hlast : [(name, h)].find? (·.1 == other) = none := by
    simp [Ne.symm hne]
  rw [← hforget, find?, put, (shrinks_release _ _).handles_eq, List.find?_append, hlast,
    Option.or_none, find?]

/-- A table with all owners under their labels keeps them when a grammar is built under a further
name. -/
theorem alive_of_build {goal : String} {takenBy : List (Fin sys.size)}
    {g : Grammar L (Fin sys.size) V V} (t : st.Tally [])
    (hfind : ∀ i, st.find? (sys.label i) = some (.owner i)) (hgoal : ∀ i, sys.label i ≠ goal)
    (hbuild : st.build goal (sys.draft takenBy g) = some st') (i : Fin sys.size) :
    st'.Alive (.slot i) := by
  have hnamed : sys.Named st := fun i => by rw [hfind i]; rfl
  obtain ⟨held, ha⟩ := assemble_draft hnamed takenBy g
  have hfind' : st'.find? (sys.label i) = some (.owner i) := by
    rw [build, ha] at hbuild
    rw [← Option.some.inj hbuild]
    exact (find?_put_of_ne _ (hgoal i) _).trans (hfind i)
  exact ((t.build hbuild).alive_iff_mem (.slot i)).mpr (List.mem_append_left [] (find?_mem hfind'))

/-- Groups in parentheses, and sequences of groups, in terms of each other. -/
def groups : System (Leaf Token) Unit where
  size := 2
  label
    | 0 => "group"
    | 1 => "sequence"
  label_injective := by decide
  body
    | 0 => (Grammar.leaf (.exactly .opening)).andThen
      ((Grammar.call 1).before (Grammar.leaf (.exactly .closing)))
    | 1 => (Grammar.many (.defer none (.call 0))).erase

theorem declared_system_runs_groups :
    let source : Source Token := ⟨0, [.opening, .opening, .closing, .closing, .comma]⟩
    ∃ answers st st' n r,
      ({} : Store (Leaf Token) Empty Unit).performAll (κ := ElementCursor Token) (fun r => r.elim)
        Leaf.read 0 (groups.setUp fun _ => List.finRange 2) = some (answers, st) ∧
      st.build "goal" (groups.draft [(0 : Fin 2)] (.traced "goal" (.call (0 : Fin 2)))) = some st' ∧
      st'.perform (fun r => r.elim) Leaf.read n (.parse "goal" (ElementCursor.within source 0)) =
        some (.parsed r, st') ∧
      r.outcome? = some (.success () (.within source 4)) ∧
      r.trace = [.entered "goal" 0, .left "goal" 4] := by
  intro source
  obtain ⟨answers, st, hsetUp, hfind, hruns⟩ :=
    declared_system_runs (ρ := Empty) (κ := ElementCursor Token) groups (fun _ => List.finRange 2)
      (fun r => r.elim) Leaf.read 0
  have hnamed : groups.Named st := fun i => by rw [hfind i]; rfl
  obtain ⟨st', hbuild, hparse⟩ :=
    (hruns [] [] st rfl hnamed).2 "goal" [(0 : Fin 2)] (.traced "goal" (.call (0 : Fin 2)))
  have halive := alive_of_build (tally_empty.performAll hsetUp) hfind (by decide) hbuild
  let r := groups.rules.run Leaf.read 6 (.traced "goal" (.call (0 : Fin 2)))
    (ElementCursor.within source 0)
  have houtcome : r.outcome? = some (.success () (.within source 4)) := rfl
  have htrace : r.trace = [.entered "goal" 0, .left "goal" 4] := by cbv
  obtain ⟨n, hn⟩ := (hparse halive (.within source 0) r (by simp [houtcome])).mpr ⟨6, rfl⟩
  exact ⟨answers, st, st', n, r, hsetUp, hbuild, hn, houtcome, htrace⟩

end running
end Store
end Forward
end Descent
