import Descent.Pattern.Engine
import Descent.Proofs.Pattern.Reading

/-!
# Anchored texts

A text is anchored by what is put around it: a condition and the opening of a group before it,
and a closing parenthesis after it. A text that is a pattern by itself is read inside the group as
it is alone, and the parenthesis closes the group. There is one exception: a comment at the end of
the text may hide the parenthesis, and then the group of the anchor stays open.
-/
namespace Descent.Pattern

variable {text : List Char}

theorem Behind.eq_append {whole cs cs' : List Char} (h : Behind whole cs cs')
    (hne : cs ≠ []) : cs' = cs ++ [')'] := by
  cases h with
  | ahead => rfl
  | hidden => exact absurd rfl hne

namespace Reader

/-- What is read of a text is read inside further groups and before the parenthesis too. -/
theorem Reads.before_paren {a : Reader × List Char} (h : Reads ({}, text) a) :
    ∃ cs', Behind text a.2 cs' ∧ ∀ outer : List Group,
      Reads (({} : Reader).within outer, text ++ [')']) (a.1.within outer, cs') := by
  induction h with
  | refl => exact ⟨_, .ahead (List.suffix_refl text), fun _ => .refl⟩
  | @tail a b _ hnext ih =>
    obtain ⟨r, cs⟩ := a
    obtain ⟨s, rest⟩ := b
    obtain ⟨cs', hbehind, hreads⟩ := ih
    obtain ⟨c, ds, hskip, hstep⟩ := hnext
    dsimp only at hbehind hreads hskip hstep ⊢
    cases hbehind with
    | hidden => simp at hskip
    | ahead hcs =>
      have hds : c :: ds <:+ text := hskip ▸ (r.flags.skip_suffix cs).trans hcs
      have hskip' : r.flags.skip (cs ++ [')']) = c :: (ds ++ [')']) := by
        have hb := r.flags.skip_behind cs
        rw [hskip] at hb
        exact hb.eq_append (List.cons_ne_nil c ds)
      have hopen : c = ')' → r.groups ≠ [] := by
        rintro rfl hgroups
        simp [step, closeGroup, hgroups] at hstep
      have hp := r.step_parallel c ds
      rw [hstep] at hp
      generalize hstep' : r.step c (ds ++ [')']) = x at hp
      cases hp with
      | @both _ _ rest' hb =>
        refine ⟨rest', hb.of_suffix ((List.suffix_cons c ds).trans hds), fun outer => ?_⟩
        refine (hreads outer).tail ?_
        exact ⟨c, ds ++ [')'], hskip', by rw [r.step_within outer _ hopen, hstep']; rfl⟩

end Reader

/-! ### Anchored texts -/

/-- The group that holds an anchored pattern, after the condition that the text starts here. -/
def anchor : Group := ⟨{}, [.node (.leaf (.look .textStart))], [], none⟩

theorem reads_anchored (text : List Char) :
    Reader.Reads ({}, PatternEngine.anchoredText text)
      (({} : Reader).within [anchor], text ++ [')']) := by
  refine .head (b := (({} : Reader).pushLook .textStart, '(' :: '?' :: ':' :: text ++ [')']))
    ⟨'^', _, rfl, rfl⟩ (.single ⟨'(', _, rfl, rfl⟩)

/-- The reader at the end of an anchored text, where `r` is the reader at the end of the text
itself. -/
def Reader.anchored (r : Reader) : Reader :=
  { r with flags := {}, branches := [], groups := [],
           items := [.node ⟨r.alternation.value, r.alternation.depth + 1⟩,
                     .node (.leaf (.look .textStart))] }

theorem Reader.closeGroup_anchor {r : Reader} (h : r.groups = []) :
    (r.within [anchor]).closeGroup = some r.anchored := by
  simp only [closeGroup, within_groups, h, List.nil_append]
  rfl

variable {r : Reader}

/-- At the end of a text that is a pattern the parenthesis is left, unless a comment hides it. -/
theorem ReadsTo.before_paren (h : ReadsTo text r) :
    ∃ rest, (r.flags.skip rest = [')'] ∨ r.flags.skip rest = []) ∧
      ∀ outer : List Group,
        Reader.Reads (({} : Reader).within outer, text ++ [')']) (r.within outer, rest) := by
  obtain ⟨cs, hreads, hend, -⟩ := h
  obtain ⟨rest, hb, hreads'⟩ := hreads.before_paren
  refine ⟨rest, ?_, hreads'⟩
  dsimp only at hb
  cases hb with
  | hidden => exact .inr r.flags.skip_nil
  | ahead h =>
    have hskip := r.flags.skip_behind cs
    rw [hend] at hskip
    generalize r.flags.skip (cs ++ [')']) = es at hskip
    cases hskip with
    | ahead => exact .inl rfl
    | hidden => exact .inr rfl

/-- A text that is a pattern, and is one when anchored, is read inside the group of the anchor as
it is alone. -/
theorem ReadsTo.anchored (h : ReadsTo text r)
    (hanchored : WellFormed (PatternEngine.anchoredText text)) :
    ReadsTo (PatternEngine.anchoredText text) r.anchored := by
  obtain ⟨rest, hrest, hreads⟩ := h.before_paren
  obtain ⟨-, -, -, hgroups⟩ := h
  have hreads := (reads_anchored text).trans (hreads [anchor])
  obtain hskip | hskip := hrest
  · refine ⟨[], hreads.tail ⟨')', [], hskip, ?_⟩, Flags.skip_nil _, rfl⟩
    change ((r.within [anchor]).closeGroup).map (·, []) = some (r.anchored, [])
    rw [Reader.closeGroup_anchor hgroups]
    rfl
  · obtain ⟨s, rest', hreads', hend', hgroups'⟩ := hanchored
    have he := Reader.Reads.end_unique hreads hreads' (Reader.not_next_of_skip hskip)
      (Reader.not_next_of_skip hend')
    rw [← (Prod.mk.inj he).1] at hgroups'
    simp at hgroups'

end Descent.Pattern
