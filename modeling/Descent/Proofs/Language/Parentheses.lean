import Mathlib.Combinatorics.Enumerative.DyckWord
import Descent.Proofs.Grammar.Undoing

/-!
# Balanced parentheses

Groups in parentheses, side by side and in one another. What a grammar for them consumes is the
longest balanced word that comes first: a group that is never closed is given back, together with
all that was read in it, and the repetition it belongs to ends in front of it.
-/
namespace Descent.Parentheses

def paren : DyckStep → Char
  | .U => '('
  | .D => ')'

theorem paren_injective : Function.Injective paren := by
  intro s t h
  cases s <;> cases t <;> first | rfl | exact absurd h (by decide)

/-- Every parenthesis that opens is closed after it, and none is closed that has not been opened. -/
def Balanced (w : List Char) : Prop :=
  ∃ p : DyckWord, p.toList.map paren = w

namespace Balanced
variable {u v w : List Char}

theorem nil : Balanced [] := ⟨0, rfl⟩

theorem nest_append (hu : Balanced u) (hv : Balanced v) : Balanced ('(' :: (u ++ ')' :: v)) := by
  obtain ⟨p, rfl⟩ := hu
  obtain ⟨q, rfl⟩ := hv
  refine ⟨p.nest + q, ?_⟩
  change List.map paren (([DyckStep.U] ++ p.toList ++ [DyckStep.D]) ++ q.toList) = _
  simp [paren]

/-- What is not empty begins with a group. -/
theorem exists_nest_append (h : Balanced w) (hne : w ≠ []) :
    ∃ u v, Balanced u ∧ Balanced v ∧ w = '(' :: (u ++ ')' :: v) := by
  obtain ⟨p, rfl⟩ := h
  have hp : p ≠ 0 := by
    rintro rfl
    exact hne rfl
  refine ⟨_, _, ⟨p.insidePart, rfl⟩, ⟨p.outsidePart, rfl⟩, ?_⟩
  have hparts := congrArg DyckWord.toList (DyckWord.nest_insidePart_add_outsidePart hp)
  rw [← hparts]
  change List.map paren
    (([DyckStep.U] ++ p.insidePart.toList ++ [DyckStep.D]) ++ p.outsidePart.toList) = _
  simp [paren]

/-- Behind a balanced word, nothing is left to be closed. -/
theorem not_close_isPrefix (hu : Balanced u) (hw : Balanced w) : ¬ u ++ [')'] <+: w := by
  obtain ⟨p, rfl⟩ := hu
  obtain ⟨q, rfl⟩ := hw
  intro hprefix
  have hmap : p.toList.map paren ++ [')'] = (p.toList ++ [DyckStep.D]).map paren := by
    simp [paren]
  rw [hmap, List.prefix_map_iff] at hprefix
  obtain ⟨steps, hsteps, he⟩ := hprefix
  obtain rfl := List.map_injective_iff.mpr paren_injective he
  have hcount := q.count_D_le_count_U (p.toList ++ [DyckStep.D]).length
  rw [← List.prefix_iff_eq_take.mp hsteps, List.count_append, List.count_append,
    p.count_U_eq_count_D] at hcount
  simp at hcount

end Balanced

/-- The word `u` is the longest balanced one that `r` begins with. -/
structure LongestBalanced (u r : List Char) : Prop where
  balanced : Balanced u
  isPrefix : u <+: r
  length_le : ∀ v, Balanced v → v <+: r → v.length ≤ u.length

theorem close_isPrefix {i o r : List Char} (h : '(' :: (i ++ ')' :: o) <+: '(' :: r) :
    i ++ [')'] <+: r := by
  refine List.IsPrefix.trans ⟨o, ?_⟩ (List.cons_prefix_cons.mp h).2
  rw [List.append_assoc, List.singleton_append]

namespace LongestBalanced
variable {u v r : List Char}

theorem unique (h : LongestBalanced u r) (h' : LongestBalanced v r) : u = v := by
  have hle := h'.length_le u h.balanced h.isPrefix
  have hge := h.length_le v h'.balanced h'.isPrefix
  exact (List.prefix_of_prefix_length_le h.isPrefix h'.isPrefix hle).eq_of_length (by omega)

theorem unopened (h : ¬ ['('] <+: r) : LongestBalanced [] r := by
  refine ⟨.nil, List.nil_prefix, fun v hv hprefix => ?_⟩
  by_cases hne : v = []
  · rw [hne]
  · obtain ⟨i, o, -, -, rfl⟩ := hv.exists_nest_append hne
    exact absurd ((List.prefix_append ['('] _).trans hprefix) h

/-- A balanced word that a closing parenthesis follows is the longest one. -/
theorem eq_of_close (h : LongestBalanced u r) (hv : Balanced v) (hr : v ++ [')'] <+: r) :
    v = u := by
  have hvr : v <+: r := (List.prefix_append v [')']).trans hr
  have hle := h.length_le v hv hvr
  have hvu : v <+: u := List.prefix_of_prefix_length_le hvr h.isPrefix hle
  by_contra hne
  have hlt : v.length < u.length := lt_of_le_of_ne hle fun he => hne (hvu.eq_of_length he)
  refine hv.not_close_isPrefix h.balanced (List.prefix_of_prefix_length_le hr h.isPrefix ?_)
  rw [List.length_append, List.length_singleton]
  omega

/-- If the longest balanced word behind an opening parenthesis is not closed, none is. -/
theorem unclosed (h : LongestBalanced u r) (hno : ¬ u ++ [')'] <+: r) :
    LongestBalanced [] ('(' :: r) := by
  refine ⟨.nil, List.nil_prefix, fun v hv hprefix => ?_⟩
  by_cases hne : v = []
  · rw [hne]
  · obtain ⟨i, o, hi, -, rfl⟩ := hv.exists_nest_append hne
    have hclose := close_isPrefix hprefix
    obtain rfl := h.eq_of_close hi hclose
    exact absurd hclose hno

/-- If it is closed, the longest word goes on behind the closing parenthesis. -/
theorem closed (hu : LongestBalanced u (u ++ ')' :: r)) (hv : LongestBalanced v r) :
    LongestBalanced ('(' :: (u ++ ')' :: v)) ('(' :: (u ++ ')' :: r)) := by
  refine ⟨hu.balanced.nest_append hv.balanced, ?_, fun w hw hprefix => ?_⟩
  · rw [List.cons_prefix_cons, List.prefix_append_right_inj, List.cons_prefix_cons]
    exact ⟨rfl, rfl, hv.isPrefix⟩
  · by_cases hne : w = []
    · rw [hne]
      exact Nat.zero_le _
    · obtain ⟨i, o, hi, ho, rfl⟩ := hw.exists_nest_append hne
      obtain rfl := hu.eq_of_close hi (close_isPrefix hprefix)
      rw [List.cons_prefix_cons, List.prefix_append_right_inj, List.cons_prefix_cons] at hprefix
      have hle := hv.length_le o ho hprefix.2.2
      simp only [List.length_cons, List.length_append]
      omega

end LongestBalanced

/-- The grammars that refer to one another. -/
inductive Rule where
  | groups
  | group

/-- How many groups there are side by side, those in one another counted. -/
def groups : Grammar TextLeaf Rule Nat Nat :=
  (Grammar.many (.defer none (.call .group))).map List.sum

def group : Grammar TextLeaf Rule Nat Nat :=
  ((Grammar.call .groups).between ['('] [')']).map (· + 1)

def rules : Rules TextLeaf Rule Nat
  | .groups => .ok groups
  | .group => .ok group

section language
variable {c b m d : TextCursor}

theorem endsWith_group_iff {o : Outcome TextCursor ParseError Nat} :
    rules.EndsWith TextLeaf.read (.call .group) c o ↔ rules.EndsWith TextLeaf.read group c o :=
  Rules.endsWith_call_iff rfl

/-- Between `c` and `d` stand as many groups as can be read from `c` on. -/
structure Finds (c : TextCursor) (u : List Char) (d : TextCursor) : Prop where
  longest : LongestBalanced u c.remaining
  passes : Cursor.Passes c u d
  endsWith : ∃ sizes, sizes.sum = u.count '(' ∧ rules.EndsWith TextLeaf.read
    (.many (.defer none (.call .group))) c (.success sizes d)

theorem Finds.endsWith_groups {u : List Char} (h : Finds c u d) :
    rules.EndsWith TextLeaf.read (.call .groups) c (.success (u.count '(') d) := by
  have hgroups : rules .groups = .ok groups := rfl
  obtain ⟨sizes, hsum, hsizes⟩ := h.endsWith
  rw [Rules.endsWith_call_iff hgroups, groups, Rules.endsWith_map_success_iff]
  exact ⟨sizes, hsizes, hsum⟩

/-- Where no group can be read, none is consumed. -/
theorem Finds.of_failure (h : LongestBalanced [] c.remaining)
    (hfails : ∃ e, rules.EndsWith TextLeaf.read group c (.failure e)) : Finds c [] c := by
  obtain ⟨e, he⟩ := hfails
  rw [← endsWith_group_iff] at he
  exact ⟨h, .nil c, [], rfl, Rules.endsWith_many_iff.mpr (Or.inr ⟨e, he, rfl⟩)⟩

/-- A closed group and the groups behind it. -/
theorem Finds.cons {u v : List Char} {e : TextCursor} (hc : c.OnBoundary)
    (hb : Cursor.Passes c ['('] b) (hu : Finds b u m) (hm : Cursor.Passes m [')'] e)
    (hv : Finds e v d) : Finds c ('(' :: (u ++ ')' :: v)) d := by
  have hgood := hb.preserves hc TextCursor.walkable
  have hgroup : rules.EndsWith TextLeaf.read (.call .group) c (.success (u.count '(' + 1) e) := by
    rw [endsWith_group_iff, group, Rules.endsWith_map_success_iff]
    exact ⟨_, Rules.endsWith_between hc hb hu.endsWith_groups
      (hu.passes.preserves hgood TextCursor.walkable) hm, rfl⟩
  have hce : Cursor.Passes c ('(' :: (u ++ [')'])) e := hb.append (hu.passes.append hm)
  have hlater := TextCursor.ordered.precedes hc hce (List.cons_ne_nil _ _)
  obtain ⟨sizes, hsum, hsizes⟩ := hv.endsWith
  have hb_remaining : b.remaining = u ++ ')' :: e.remaining :=
    (hu.passes.append hm).remaining_eq.trans (by simp; rfl)
  have hc_remaining : c.remaining = '(' :: b.remaining := hb.remaining_eq
  refine ⟨?_, ?_, (u.count '(' + 1) :: sizes, ?_, ?_⟩
  · have hinside := hu.longest
    rw [hb_remaining] at hinside
    rw [hc_remaining, hb_remaining]
    exact hinside.closed hv.longest
  · have hcd := hce.append hv.passes
    rwa [List.cons_append, List.append_assoc, List.singleton_append] at hcd
  · rw [List.sum_cons, hsum, List.count_cons_self, List.count_append,
      List.count_cons_of_ne (by decide)]
    omega
  · refine Rules.endsWith_many_iff.mpr (Or.inl ⟨_, e, hgroup, ?_⟩)
    rw [if_neg (TextCursor.ordered.not_beq hc hlater)]
    exact ⟨_, hsizes, rfl⟩

/-- What a group holds stands further on than the group, and so does what follows it. -/
theorem exists_finds (hc : c.OnBoundary) : ∃ u d, Finds c u d := by
  refine TextCursor.ordered.induction (motive := fun c => ∃ u d, Finds c u d)
    (fun c hc ih => ?_) hc
  by_cases hopen : ['('] <+: c.remaining
  · obtain ⟨b, hb⟩ := TextCursor.walkable.exists_passes_of_isPrefix hc hopen
    obtain ⟨u, m, hu⟩ := ih b (TextCursor.ordered.precedes hc hb (List.cons_ne_nil _ _))
    have hbm := hb.append hu.passes
    have hm : m.OnBoundary := hbm.preserves hc TextCursor.walkable
    by_cases hclose : [')'] <+: m.remaining
    · obtain ⟨e, he⟩ := TextCursor.walkable.exists_passes_of_isPrefix hm hclose
      obtain ⟨v, d, hv⟩ := ih e
        (TextCursor.ordered.precedes hc (hbm.append he) (List.cons_ne_nil _ _))
      exact ⟨_, d, .cons hc hb hu he hv⟩
    · have hfails := Rules.exists_failure_bind (k := fun n => .succeed (n + 1))
        (Rules.exists_failure_unclosed hc hb hu.endsWith_groups hm hclose)
      refine ⟨[], c, .of_failure ?_ hfails⟩
      have hc_remaining : c.remaining = '(' :: b.remaining := hb.remaining_eq
      rw [hc_remaining]
      refine hu.longest.unclosed fun hprefix => hclose ?_
      have hb_remaining : b.remaining = u ++ m.remaining := hu.passes.remaining_eq
      rwa [hb_remaining, List.prefix_append_right_inj] at hprefix
  · exact ⟨[], c, .of_failure (.unopened hopen)
      (Rules.exists_failure_bind (Rules.exists_failure_unopened hc hopen))⟩

end language

/-- The grammar never fails. At any place of a text it consumes the longest balanced word that comes
first there, and its value is the number of parentheses that open in it. -/
theorem groups_consume_longest_balanced {c : TextCursor} (hc : c.OnBoundary) :
    ∃ u d, LongestBalanced u c.remaining ∧ Cursor.Passes c u d ∧
      ∀ o, rules.EndsWith TextLeaf.read (.call .groups) c o ↔ o = .success (u.count '(') d := by
  obtain ⟨u, d, h⟩ := exists_finds hc
  refine ⟨u, d, h.longest, h.passes, fun o => ⟨fun ho => ho.unique h.endsWith_groups, ?_⟩⟩
  rintro rfl
  exact h.endsWith_groups

theorem groups_consume_longest_balanced_in_text :
    let c : TextCursor := ⟨⟨0, 'é' :: "(()())()((x".toList⟩, 2⟩
    ∃ d, rules.EndsWith TextLeaf.read (.call .groups) c (.success 4 d) ∧
      d.remaining = ['(', '(', 'x'] := by
  intro c
  obtain ⟨u, d, hlongest, hpasses, houtcome⟩ :=
    groups_consume_longest_balanced (c := c) ⟨['é'], rfl, rfl⟩
  have htail : LongestBalanced [] ['(', '(', 'x'] :=
    .unclosed (.unclosed (.unopened (by decide)) (by decide)) (by decide)
  have hinner : LongestBalanced ['(', ')', '(', ')'] "()())()((x".toList :=
    .closed (.unopened (by decide)) (.closed (.unopened (by decide)) (.unopened (by decide)))
  have hwhole : LongestBalanced "(()())()".toList c.remaining :=
    .closed hinner (.closed (.unopened (by decide)) htail)
  obtain rfl := hlongest.unique hwhole
  refine ⟨d, (houtcome _).mpr rfl, ?_⟩
  have hrest : "(()())()".toList ++ ['(', '(', 'x'] = "(()())()".toList ++ d.remaining :=
    hpasses.remaining_eq
  exact (List.append_cancel_left hrest).symm

end Descent.Parentheses
