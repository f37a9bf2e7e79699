import Descent.Proofs.Forward.LifeCycle
import Descent.Proofs.Forward.Recursion
import Descent.Proofs.Grammar.Undoing

/-!
# Nested lists

A tree is written as a digit if it is a leaf, and else as its children in brackets with commas in
between. The grammar for such texts refers to itself through a forward declaration. It undoes the
writing: it succeeds with a tree exactly where the tree is written, however deep and wide the tree
is, leaves off behind it, and fails where none is written.
-/
namespace Descent

namespace Forward.Store
variable {L : Type → Type} {ρ V κ α : Type} [Cursor κ α]

/-- Parsing with the handle `name` comes to the outcome `o` once the budget is large enough. -/
def ParsesTo (st : Store L ρ V) (outside : Rules L ρ V)
    (read : {β : Type} → L β → κ → Outcome κ ParseError β) (name : String) (c : κ)
    (o : Outcome κ ParseError V) : Prop :=
  ∃ n, ∀ m, n ≤ m → ∃ r, st.perform outside read m (.parse name c) = some (.parsed r, st) ∧
    r.outcome? = some o

theorem parsesTo_iff {st : Store L ρ V} {outside : Rules L ρ V}
    {read : {β : Type} → L β → κ → Outcome κ ParseError β} {name : String} {s : Nat} {c : κ}
    {o : Outcome κ ParseError V} (hfind : (st.find? name).bind slotOf = some s) :
    st.ParsesTo outside read name c o ↔ (st.rules outside).EndsWith read (.call (.slot s)) c o := by
  constructor
  · rintro ⟨n, hn⟩
    refine ⟨n, fun m hm => ?_⟩
    obtain ⟨r, hr, ho⟩ := hn m hm
    rw [perform_parse hfind, Option.some.injEq, Prod.mk.injEq, Answer.parsed.injEq] at hr
    rw [hr.1, ho]
  · rintro ⟨n, hn⟩
    exact ⟨n, fun m hm => ⟨_, perform_parse hfind c, hn m hm⟩⟩

end Forward.Store

namespace NestedLists
open Forward

/-- Trees with numbers at the leaves. -/
inductive Tree where
  | leaf (n : Nat)
  | node (children : List Tree)

/-- The leaves are digits. -/
inductive Tree.OfDigits : Tree → Prop where
  | leaf {n : Nat} (h : n < 10) : OfDigits (.leaf n)
  | node {ts : List Tree} (h : ∀ t ∈ ts, OfDigits t) : OfDigits (.node ts)

mutual

/-- The text that a tree is written as. -/
def Tree.render : Tree → List Char
  | .leaf n => [n.digitChar]
  | .node ts => '[' :: ([','].intercalate (Tree.renderEach ts) ++ [']'])

def Tree.renderEach : List Tree → List (List Char)
  | [] => []
  | t :: ts => t.render :: Tree.renderEach ts

end

theorem Tree.renderEach_eq_map (ts : List Tree) : renderEach ts = ts.map render := by
  induction ts with
  | nil => rfl
  | cons t ts ih => rw [renderEach, ih, List.map_cons]

theorem Tree.render_node (ts : List Tree) :
    (Tree.node ts).render = '[' :: ([','].intercalate (ts.map render) ++ [']']) := by
  rw [render, renderEach_eq_map]

/-- The number that a digit stands for, zero for any other character. -/
def digitValue (ch : Char) : Nat :=
  if ch.isDigit then ch.toNat - 48 else 0

section grammars
variable {ρ : Type}

def leaf : Grammar TextLeaf ρ Tree Tree :=
  (Grammar.leaf (.inl (.satisfying "digit" Char.isDigit))).map fun ch => .leaf (digitValue ch)

/-- Trees as `tree` reads them, in brackets and with commas in between. -/
def node (tree : Grammar TextLeaf ρ Tree Tree) : Grammar TextLeaf ρ Tree Tree :=
  ((Grammar.sepBy tree (.leaf (.inr (.tag [','])))).between ['['] [']']).map .node

/-- A tree whose subtrees `tree` reads. -/
def treeOver (tree : Grammar TextLeaf ρ Tree Tree) : Grammar TextLeaf ρ Tree Tree :=
  leaf.orElse (.defer none (node tree))

end grammars

/-- The declaration of the grammar, and its definition, which takes a copy of the declaration. -/
def program : List (Command TextLeaf Empty Tree TextCursor) :=
  [.declare "tree", .clone "tree" "inner",
    .define "tree" ⟨[.moved "inner"], treeOver (.call (.inr "inner"))⟩]

def noRules : Rules TextLeaf Empty Tree := fun r => r.elim

/-- What the program leaves: a slot whose definition refers to the slot itself. -/
def store : Store TextLeaf Empty Tree where
  handles := [("tree", .owner 0)]
  slots := [.defined ⟨treeOver (.call (.slot 0)), [.borrowed 0]⟩]

theorem rename_treeOver {ρ σ : Type} (f : ρ → σ) (tree : Grammar TextLeaf ρ Tree Tree) :
    (treeOver tree).rename f = treeOver (tree.rename f) := rfl

theorem performAll_program (budget : Nat) :
    ({} : Store TextLeaf Empty Tree).performAll noRules TextLeaf.read budget program =
      some ([.done, .done, .defined], store) := by
  let declared : Store TextLeaf Empty Tree := {
    handles := [("tree", .owner 0), ("inner", .borrowed 0)]
    slots := [.undefined] }
  have hcall : (Grammar.call (.inr "inner") : Grammar TextLeaf (Empty ⊕ String) Tree Tree).rename
      declared.resolve = .call (.slot 0) := rfl
  simp [declared] at hcall
  simp [Store.performAll, program, Store.perform, Store.declare, Store.clone, Store.define,
    Store.assemble, Store.capture, Store.put, Store.release, Store.find?, Store.forget,
    Store.fill, Store.slotOf, Handle.copy, store, rename_treeOver, hcall]

section language

abbrev rules : Rules TextLeaf (Target Empty) Tree := store.rules noRules

theorem digitChar_digitValue {ch : Char} (h : ch.isDigit = true) :
    digitValue ch < 10 ∧ (digitValue ch).digitChar = ch := by
  have hrange : 48 ≤ ch.toNat ∧ ch.toNat ≤ 57 := by
    simpa [Char.isDigit, UInt32.le_iff_toNat_le] using h
  obtain ⟨n, hn, hch⟩ : ∃ n < 10, ch.toNat = n + 48 := ⟨ch.toNat - 48, by omega, by omega⟩
  have hvalue : digitValue ch = n := by rw [digitValue, if_pos h, hch, Nat.add_sub_cancel]
  have hdigit : ∀ n < 10, n.digitChar = Char.ofNat (n + 48) := by decide
  rw [hvalue, hdigit n hn, ← hch, Char.ofNat_toNat]
  exact ⟨hn, rfl⟩

theorem digitValue_digitChar {n : Nat} (h : n < 10) :
    n.digitChar.isDigit = true ∧ digitValue n.digitChar = n := by
  decide +revert

/-- What is written begins with a digit or with a bracket that opens. -/
theorem Tree.OfDigits.exists_render_eq {t : Tree} (h : t.OfDigits) :
    ∃ ch rest, t.render = ch :: rest ∧ (ch.isDigit = true ∨ ch = '[') := by
  cases h with
  | @leaf n hn => exact ⟨n.digitChar, [], by rw [render], Or.inl (digitValue_digitChar hn).1⟩
  | @node ts hts => exact ⟨'[', _, render_node ts, Or.inr rfl⟩

theorem Tree.OfDigits.not_isPrefix {t : Tree} (h : t.OfDigits) {ch : Char} {rest : List Char}
    (hdigit : ch.isDigit = false) (hbracket : ch ≠ '[') : ¬ t.render <+: ch :: rest := by
  intro hprefix
  obtain ⟨first, more, hrender, hfirst⟩ := h.exists_render_eq
  rw [hrender] at hprefix
  obtain rfl := (List.cons_prefix_cons.mp hprefix).1
  rcases hfirst with hd | hb
  · exact absurd (hd.symm.trans hdigit) (by decide)
  · exact hbracket hb

variable {t : Tree} {c d : TextCursor}

theorem leaf_success_iff (hc : c.OnBoundary) :
    rules.EndsWith TextLeaf.read leaf c (.success t d) ↔
      ∃ n, t = .leaf n ∧ n < 10 ∧ Cursor.Passes c [n.digitChar] d := by
  rw [leaf, Rules.endsWith_map_success_iff]
  simp only [(rules.undoes_character "digit" Char.isDigit).success_iff c _ d hc]
  constructor
  · rintro ⟨ch, ⟨hch, hd⟩, rfl⟩
    obtain ⟨hlt, he⟩ := digitChar_digitValue hch
    exact ⟨digitValue ch, rfl, hlt, he.symm ▸ hd⟩
  · rintro ⟨n, rfl, hn, hd⟩
    obtain ⟨hch, he⟩ := digitValue_digitChar hn
    exact ⟨n.digitChar, ⟨hch, hd⟩, by rw [he]⟩

theorem exists_endsWith_leaf : ∃ o, rules.EndsWith TextLeaf.read leaf c o :=
  Rules.exists_endsWith_map ⟨_, Rules.endsWith_leaf _⟩

theorem later_of_opening (hc : c.OnBoundary) (h : Cursor.Passes c ['['] d) :
    d.OnBoundary ∧ Cursor.Precedes c d :=
  ⟨h.preserves hc TextCursor.walkable,
    TextCursor.ordered.precedes hc h (List.cons_ne_nil _ _)⟩

/-- If the subtrees further on undo the writing, so does a node. -/
theorem node_success_iff (hc : c.OnBoundary)
    (hlater : rules.Undoes TextLeaf.read (fun d => d.OnBoundary ∧ Cursor.Precedes c d)
      (.call (.slot 0)) Tree.OfDigits Tree.render) :
    rules.EndsWith TextLeaf.read (node (.call (.slot 0))) c (.success t d) ↔
      ∃ ts, t = .node ts ∧ (∀ s ∈ ts, s.OfDigits) ∧ Cursor.Passes c (Tree.node ts).render d := by
  have w := TextCursor.ordered.later c
  have hcomma := (rules.undoes_tag [',']).mono fun d (h : d.OnBoundary ∧ Cursor.Precedes c d) => h.1
  have hne : ∀ t : Tree, t.OfDigits → t.render ≠ [] := by
    intro t ht hnil
    obtain ⟨ch, rest, he, -⟩ := ht.exists_render_eq
    rw [hnil] at he
    simp at he
  rw [node, Rules.endsWith_map_success_iff]
  constructor
  · rintro ⟨ts, h, rfl⟩
    obtain ⟨b, m, hb, hts, hd⟩ := Rules.exists_of_between hc h
    have hgood := later_of_opening hc hb
    obtain ⟨hoks, hm, -⟩ := (hlater.sepBy_success_iff w hne hcomma hgood).mp hts
    refine ⟨ts, rfl, hoks, ?_⟩
    rw [Tree.render_node]
    exact hb.append (hm.append (hd (hm.preserves hgood.1 TextCursor.walkable)))
  · rintro ⟨ts, rfl, hoks, h⟩
    rw [Tree.render_node, TextCursor.walkable.passes_cons_iff hc] at h
    obtain ⟨b, hb, h⟩ := h
    have hgood := later_of_opening hc hb
    obtain ⟨m, hm, hd⟩ := (TextCursor.walkable.passes_append_iff hgood.1).mp h
    refine ⟨ts, Rules.endsWith_between hc hb ?_ (hm.preserves hgood.1 TextCursor.walkable) hd, rfl⟩
    refine (hlater.sepBy_success_iff w hne hcomma hgood).mpr ⟨hoks, hm, ?_⟩
    -- The closing bracket begins neither a tree nor a comma with a tree behind it.
    intro t ht hprefix
    rw [hd.remaining_eq] at hprefix
    split at hprefix
    · exact ht.not_isPrefix rfl (by decide) hprefix
    · exact absurd (List.cons_prefix_cons.mp hprefix).1 (by decide)

theorem exists_endsWith_node (hc : c.OnBoundary)
    (hlater : rules.Undoes TextLeaf.read (fun d => d.OnBoundary ∧ Cursor.Precedes c d)
      (.call (.slot 0)) Tree.OfDigits Tree.render) :
    ∃ o, rules.EndsWith TextLeaf.read (node (.call (.slot 0))) c o := by
  have w := TextCursor.ordered.later c
  have hcomma := (rules.undoes_tag [',']).mono fun d (h : d.OnBoundary ∧ Cursor.Precedes c d) => h.1
  exact Rules.exists_endsWith_map (Rules.exists_endsWith_between hc fun b hb =>
    hlater.exists_endsWith_sepBy w hcomma (later_of_opening hc hb))

theorem treeOver_success_iff (hc : c.OnBoundary)
    (hlater : rules.Undoes TextLeaf.read (fun d => d.OnBoundary ∧ Cursor.Precedes c d)
      (.call (.slot 0)) Tree.OfDigits Tree.render) :
    rules.EndsWith TextLeaf.read (treeOver (.call (.slot 0))) c (.success t d) ↔
      t.OfDigits ∧ Cursor.Passes c t.render d := by
  rw [treeOver, Rules.endsWith_orElse_success_iff, leaf_success_iff hc, Rules.endsWith_defer_iff,
    node_success_iff hc hlater]
  constructor
  · rintro (⟨n, rfl, hn, hd⟩ | ⟨-, ts, rfl, hoks, hd⟩)
    · exact ⟨.leaf hn, by rwa [Tree.render]⟩
    · exact ⟨.node hoks, hd⟩
  · rintro ⟨ht, hd⟩
    cases ht with
    | @leaf n hn =>
      rw [Tree.render] at hd
      exact Or.inl ⟨n, rfl, hn, hd⟩
    | @node ts hoks =>
      refine Or.inr ⟨(Rules.endsWith_failure_iff exists_endsWith_leaf).mpr ?_, ts, rfl, hoks, hd⟩
      intro t e ht
      obtain ⟨n, -, hn, he⟩ := (leaf_success_iff hc).mp ht
      -- A digit is no opening bracket.
      have hhead := he.remaining_eq.symm.trans hd.remaining_eq
      rw [Tree.render_node] at hhead
      have hbracket := (List.cons.inj hhead).1
      have hdigit := (digitValue_digitChar hn).1
      rw [hbracket] at hdigit
      exact absurd hdigit (by decide)

/-- A subtree stands further on than the tree it belongs to. -/
theorem undoes_tree : rules.Undoes TextLeaf.read TextCursor.OnBoundary (.call (.slot 0))
    Tree.OfDigits Tree.render := by
  have hcall : rules (.slot 0) = .ok (treeOver (.call (.slot 0))) := rfl
  refine .of_later TextCursor.ordered fun c hc hlater => ⟨?_, ?_⟩
  · rintro _ t d rfl
    rw [Rules.endsWith_call_iff hcall]
    exact treeOver_success_iff hc hlater
  · rintro _ rfl
    simp only [Rules.endsWith_call_iff hcall]
    exact Rules.exists_endsWith_orElse exists_endsWith_leaf (exists_endsWith_node hc hlater)

end language

/-- The declared grammar undoes the writing of trees: at any place of a text it succeeds with a tree
of digits and leaves the rest `r` exactly if that tree and then `r` are written there, and it fails
if no tree is. -/
theorem nested_lists_undo_writing :
    ∃ answers st, ({} : Store TextLeaf Empty Tree).performAll noRules TextLeaf.read 0 program =
        some (answers, st) ∧
      ∀ c : TextCursor, c.OnBoundary →
        (∀ (t : Tree) r, t.OfDigits →
          ((∃ d, st.ParsesTo noRules TextLeaf.read "tree" c (.success t d) ∧ d.remaining = r) ↔
            c.remaining = t.render ++ r)) ∧
        ((∀ (t : Tree) r, t.OfDigits → c.remaining ≠ t.render ++ r) →
          ∃ e, st.ParsesTo noRules TextLeaf.read "tree" c (.failure e)) := by
  refine ⟨_, store, performAll_program 0, fun c hc => ?_⟩
  have hfind : (store.find? "tree").bind Store.slotOf = some 0 := by decide
  simp only [Store.parsesTo_iff hfind]
  constructor
  · intro t r ht
    constructor
    · rintro ⟨d, hd, rfl⟩
      exact ((undoes_tree.success_iff c t d hc).mp hd).2.remaining_eq
    · intro hr
      obtain ⟨d, hd, hrest⟩ := TextCursor.walkable.exists_passes hc hr
      exact ⟨d, (undoes_tree.success_iff c t d hc).mpr ⟨ht, hd⟩, hrest⟩
  · intro hno
    refine (undoes_tree.failure_iff TextCursor.walkable hc).mpr fun t ht hprefix => ?_
    obtain ⟨r, hr⟩ := hprefix
    exact hno t r ht hr.symm

theorem nested_lists_undo_writing_in_text :
    let source : Source Char := ⟨0, 'é' :: "[1,[2,3],[]],7".toList⟩
    let t : Tree := .node [.leaf 1, .node [.leaf 2, .leaf 3], .node []]
    ∃ answers st, ({} : Store TextLeaf Empty Tree).performAll noRules TextLeaf.read 0 program =
        some (answers, st) ∧
      (∃ d, st.ParsesTo noRules TextLeaf.read "tree" ⟨source, 2⟩ (.success t d) ∧
        d.remaining = [',', '7']) ∧
      ∃ e, st.ParsesTo noRules TextLeaf.read "tree" ⟨source, 14⟩ (.failure e) := by
  intro source t
  obtain ⟨answers, st, hprogram, hparse⟩ := nested_lists_undo_writing
  have ht : t.OfDigits := by
    refine .node ?_
    simp only [List.forall_mem_cons, List.not_mem_nil, false_implies, implies_true, and_true]
    refine ⟨.leaf (by decide), .node ?_, .node (by simp)⟩
    simp only [List.forall_mem_cons, List.not_mem_nil, false_implies, implies_true, and_true]
    exact ⟨.leaf (by decide), .leaf (by decide)⟩
  refine ⟨answers, st, hprogram, ?_, ?_⟩
  · exact ((hparse ⟨source, 2⟩ ⟨['é'], rfl, rfl⟩).1 t [',', '7'] ht).mpr rfl
  · refine (hparse ⟨source, 14⟩ ⟨'é' :: "[1,[2,3],[]]".toList, rfl, rfl⟩).2 fun t r ht hr => ?_
    have hr : [',', '7'] = t.render ++ r := hr
    exact ht.not_isPrefix rfl (by decide) ⟨r, hr.symm⟩

end NestedLists
end Descent
