import Mathlib.Logic.Relation
import Descent.Proofs.Pattern.TrailingStep

/-!
# Reading as steps

The loop that reads a pattern, as a relation between a reader with the text left to it and what
they are after one more step. Every step shortens the text, so the bound of the loop is never
met, and there is one way to go on at most, so a text is read to one end only. Groups around the
reader matter to no step but the one that closes them.

Texts that are patterns are described in these terms, without the limit on their nesting.
-/
namespace Descent.Pattern

open Relation (ReflTransGen)

namespace Reader

/-- The next thing that is left in the text has been read. -/
def Next (a b : Reader × List Char) : Prop :=
  ∃ c cs, a.1.flags.skip a.2 = c :: cs ∧ a.1.step c cs = some b

/-- From a reader and the text left to it, steps lead to another. -/
abbrev Reads : Reader × List Char → Reader × List Char → Prop :=
  ReflTransGen Next

theorem step_suffix {r s : Reader} {c : Char} {cs rest : List Char}
    (h : r.step c cs = some (s, rest)) : rest <:+ cs := by
  have hp := r.step_parallel c cs
  rw [h] at hp
  generalize r.step c (cs ++ [')']) = x at hp
  cases hp with
  | both _ hb => exact hb.suffix

theorem Next.unique {a b c : Reader × List Char} (h : Next a b) (h' : Next a c) : b = c := by
  obtain ⟨d, ds, hskip, hstep⟩ := h
  obtain ⟨e, es, hskip', hstep'⟩ := h'
  obtain ⟨rfl, rfl⟩ := List.cons.inj (hskip.symm.trans hskip')
  exact Option.some.inj (hstep.symm.trans hstep')

theorem not_next_of_skip {r : Reader} {cs : List Char} (h : r.flags.skip cs = [])
    (b : Reader × List Char) : ¬ Next (r, cs) b := by
  rintro ⟨c, rest, hskip, -⟩
  simp [h] at hskip

/-- There is one way to read: where nothing can be read any more is after all that is read. -/
theorem Reads.later {a b c : Reader × List Char} (h : Reads a b) (h' : Reads a c)
    (hc : ∀ d, ¬ Next c d) : Reads b c := by
  have hunique : Relator.RightUnique Next := fun _ _ _ => Next.unique
  obtain h | h := ReflTransGen.total_of_right_unique hunique h h'
  · exact h
  · obtain rfl | ⟨d, hd, -⟩ := h.cases_head
    · exact .refl
    · exact absurd hd (hc d)

theorem Reads.end_unique {a b c : Reader × List Char} (h : Reads a b) (h' : Reads a c)
    (hb : ∀ d, ¬ Next b d) (hc : ∀ d, ¬ Next c d) : b = c := by
  obtain h | ⟨d, hd, -⟩ := (h.later h' hc).cases_head
  · exact h
  · exact absurd hd (hb d)

/-- What the loop reads is what steps lead to, if its bound exceeds the length of the text. -/
theorem loop_eq_some_iff {n : Nat} {r : Reader} {cs : List Char} {p : Pattern}
    (hn : cs.length < n) :
    loop n r cs = some p ↔
      ∃ s rest, Reads (r, cs) (s, rest) ∧ s.flags.skip rest = [] ∧ s.finish = some p := by
  induction n generalizing r cs with
  | zero => omega
  | succ n ih =>
    rw [loop]
    split
    · next hskip =>
      constructor
      · exact fun h => ⟨r, cs, .refl, hskip, h⟩
      · rintro ⟨s, rest, hreads, -, h⟩
        obtain h' | ⟨d, hd, -⟩ := hreads.cases_head
        · rw [Prod.mk.injEq] at h'
          rw [h'.1, h]
        · exact absurd hd (not_next_of_skip hskip d)
    · next c ds hskip =>
      have hlen : ds.length < cs.length := by
        have h := (r.flags.skip_suffix cs).length_le
        rw [hskip, List.length_cons] at h
        omega
      cases hstep : r.step c ds with
      | none =>
        refine iff_of_false (by simp) ?_
        rintro ⟨s, rest, hreads, hs, -⟩
        obtain h | ⟨d, ⟨e, es, hskip', hstep'⟩, -⟩ := hreads.cases_head
        · rw [Prod.mk.injEq] at h
          rw [← h.1, ← h.2, hskip] at hs
          cases hs
        · obtain ⟨rfl, rfl⟩ := List.cons.inj (hskip.symm.trans hskip')
          simp [hstep] at hstep'
      | some b =>
        obtain ⟨s, rest⟩ := b
        have hrest := (step_suffix hstep).length_le
        have hnext : Next (r, cs) (s, rest) := ⟨c, ds, hskip, hstep⟩
        refine (ih (by omega)).trans (exists₂_congr fun t _ => and_congr_left fun hend => ?_)
        constructor
        · exact fun h => .head hnext h
        · intro h
          obtain h | ⟨d, hd, h⟩ := h.cases_head
          · rw [Prod.mk.injEq] at h
            rw [← h.1, ← h.2, hskip] at hend
            cases hend.1
          · rwa [hd.unique hnext] at h

/-! ### Groups around what is read -/

/-- The reader inside further groups, the innermost first. -/
def within (r : Reader) (outer : List Group) : Reader :=
  { r with groups := r.groups ++ outer }

@[simp] theorem within_flags (r : Reader) (outer : List Group) :
    (r.within outer).flags = r.flags := rfl

@[simp] theorem within_groups (r : Reader) (outer : List Group) :
    (r.within outer).groups = r.groups ++ outer := rfl

theorem repeatLast_within (r : Reader) (outer : List Group) (least : Nat) (most : Option Nat)
    (lazyMark : Bool) :
    (r.within outer).repeatLast least most lazyMark =
      (r.repeatLast least most lazyMark).map (within · outer) := by
  unfold repeatLast within
  dsimp only
  split <;> rfl

theorem repeatMarked_within (r : Reader) (outer : List Group) (least : Nat) (most : Option Nat)
    (cs : List Char) :
    (r.within outer).repeatMarked least most cs =
      (r.repeatMarked least most cs).map fun (s, rest) => (s.within outer, rest) := by
  unfold repeatMarked
  split <;> simp [repeatLast_within, Function.comp_def]

theorem openNamed_within (r : Reader) (outer : List Group) (cs : List Char) :
    (r.within outer).openNamed cs =
      (r.openNamed cs).map fun (s, rest) => (s.within outer, rest) := by
  unfold openNamed
  cases groupName cs with
  | none => rfl
  | some x =>
    change (if r.names.contains x.1 then none else some _) =
      Option.map _ (if r.names.contains x.1 then none else some _)
    split <;> rfl

theorem afterFlags_within (r : Reader) (outer : List Group) (x : List Char × Flags × List Char) :
    (r.within outer).afterFlags x =
      (r.afterFlags x).map fun (s, rest) => (s.within outer, rest) := by
  unfold afterFlags
  split
  · rfl
  · split <;> rfl
  · rfl

theorem parenthesis_within (r : Reader) (outer : List Group) (cs : List Char) :
    (r.within outer).parenthesis cs =
      (r.parenthesis cs).map fun (s, rest) => (s.within outer, rest) := by
  rw [parenthesis_eq, parenthesis_eq, within_flags]
  unfold afterParenthesis
  split
  · exact r.openNamed_within outer _
  · rfl
  · rfl
  · exact r.openNamed_within outer _
  · rw [within_flags]
    cases groupFlags [] r.flags _ with
    | none => rfl
    | some x => exact r.afterFlags_within outer x
  · rfl

theorem counted_within (r : Reader) (outer : List Group) (cs : List Char) :
    (r.within outer).counted cs =
      (r.counted cs).map fun (s, rest) => (s.within outer, rest) := by
  rw [counted_eq, counted_eq, within_flags]
  cases count r.flags (r.flags.skip cs) with
  | none => rfl
  | some x =>
    simp only [Option.bind_some]
    cases upperBound r.flags x.1 x.2 with
    | none => rfl
    | some y =>
      simp only [Option.bind_some]
      unfold closeCount
      split
      · split
        · rfl
        · exact r.repeatMarked_within outer _ _ _
      · rfl

theorem closeGroup_within (r : Reader) (outer : List Group) (hr : r.groups ≠ []) :
    (r.within outer).closeGroup = r.closeGroup.map (within · outer) := by
  obtain ⟨g, groups, hg⟩ := List.exists_cons_of_ne_nil hr
  simp only [closeGroup, within_groups, hg]
  rfl

/-- Groups around what is read matter only where one of them is closed. -/
theorem step_within (r : Reader) (outer : List Group) {c : Char} (cs : List Char)
    (hc : c = ')' → r.groups ≠ []) :
    (r.within outer).step c cs =
      (r.step c cs).map fun (s, rest) => (s.within outer, rest) := by
  unfold step
  split
  case h_1 => exact r.parenthesis_within outer cs
  case h_2 =>
    rw [r.closeGroup_within outer (hc rfl)]
    cases r.closeGroup <;> rfl
  case h_5 | h_6 | h_7 => exact r.repeatMarked_within outer _ _ cs
  case h_8 => exact r.counted_within outer cs
  case h_4 =>
    rw [within_flags]
    cases bracketed r.flags cs <;> rfl
  case h_9 =>
    rw [within_flags]
    cases r.flags.dot? <;> rfl
  case h_12 =>
    rw [within_flags]
    cases escape r.flags cs with
    | none => rfl
    | some x =>
      obtain ⟨e, rest⟩ := x
      cases e <;> rfl
  all_goals rfl

end Reader

/-! ### Texts that are patterns -/

/-- The text is read to its end, by when all groups are closed. How deeply it nests is left
open. -/
def ReadsTo (text : List Char) (r : Reader) : Prop :=
  ∃ rest, Reader.Reads ({}, text) (r, rest) ∧ r.flags.skip rest = [] ∧ r.groups = []

/-- The text is a pattern. -/
def WellFormed (text : List Char) : Prop :=
  ∃ r, ReadsTo text r

variable {text : List Char} {r s : Reader} {p : Pattern}

theorem read?_eq_some_iff :
    read? text = some p ↔
      ∃ r, ReadsTo text r ∧ r.alternation.depth ≤ maxDepth ∧ r.alternation.value = p := by
  have hfinish (r : Reader) : r.finish = some p ↔
      r.groups = [] ∧ r.alternation.depth ≤ maxDepth ∧ r.alternation.value = p := by
    simp [Reader.finish, and_assoc]
  rw [read?, Reader.loop_eq_some_iff (by omega)]
  constructor
  · rintro ⟨r, rest, hreads, hend, hr⟩
    obtain ⟨hgroups, hdepth, hp⟩ := (hfinish r).mp hr
    exact ⟨r, ⟨rest, hreads, hend, hgroups⟩, hdepth, hp⟩
  · rintro ⟨r, ⟨rest, hreads, hend, hgroups⟩, hdepth, hp⟩
    exact ⟨r, rest, hreads, hend, (hfinish r).mpr ⟨hgroups, hdepth, hp⟩⟩

theorem ReadsTo.unique (h : ReadsTo text r) (h' : ReadsTo text s) : r = s := by
  obtain ⟨rest, hreads, hend, -⟩ := h
  obtain ⟨rest', hreads', hend', -⟩ := h'
  have he := hreads.end_unique hreads' (Reader.not_next_of_skip hend)
    (Reader.not_next_of_skip hend')
  exact (Prod.mk.inj he).1

end Descent.Pattern
