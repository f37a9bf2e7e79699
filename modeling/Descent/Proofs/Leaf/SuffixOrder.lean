import Mathlib.Data.Set.Insert
import Descent.Atom.Token
import Descent.Proofs.Cursor.InStep
import Descent.Proofs.Leaf.Walk

/-!
# The order of suffixes

Whether one cursor is a suffix of another is decided by the opening of their sources and by their
positions. For the cursors that a program comes by, this is the order in which walking goes through
the places of a source. Contents have no part in it: equal sources that were opened one by one stay
apart, and an atom need not equal itself.
-/
namespace Descent

/-- Sources that were opened one by one: no two have the same opening. A source is told from others
by the room that it takes up. An empty source takes up none, and neither does a source of atoms that
have no size, of which several may share an opening. -/
structure OpenedApart {α : Type} (sources : Set (Source α)) : Prop where
  nonempty : ∀ s ∈ sources, s.elements ≠ []
  eq_of_opening : ∀ s ∈ sources, ∀ t ∈ sources, s.opening = t.opening → s = t

namespace Cursor
variable {κ α : Type} [Cursor κ α]

/-- The cursors that come from the start of one of the sources by steps and by reading leaves. -/
inductive Obtained {L : Type → Type} (start : Source α → κ)
    (read : {β : Type} → L β → κ → Outcome κ ParseError β) (sources : Set (Source α)) :
    κ → Prop where
  | start {s : Source α} (h : s ∈ sources) : Obtained start @read sources (start s)
  | next {c : κ} (h : Obtained start @read sources c) :
    Obtained start @read sources (Cursor.next c)
  | leaf {c rest : κ} {β : Type} {l : L β} {v : β} (h : Obtained start @read sources c)
    (hread : read l c = .success v rest) : Obtained start @read sources rest

/-- Among the cursors `obtained`, a suffix is what steps lead to, and this is an order: linear on
the places of each opened source, and empty between any two sources. -/
structure SuffixOrder (obtained : κ → Prop) : Prop where
  isSuffixOf_iff : ∀ c d, obtained c → obtained d →
    (isSuffixOf c d = true ↔ (source c).opening = (source d).opening ∧ Reaches d c)
  refl : ∀ c, obtained c → isSuffixOf c c = true
  trans : ∀ c d e, obtained c → obtained d → obtained e → isSuffixOf c d = true →
    isSuffixOf d e = true → isSuffixOf c e = true
  antisymm : ∀ c d, obtained c → obtained d → isSuffixOf c d = true → isSuffixOf d c = true → c = d
  total : ∀ c d, obtained c → obtained d → (source c).opening = (source d).opening →
    isSuffixOf c d = true ∨ isSuffixOf d c = true
  apart : ∀ c d, obtained c → obtained d → (source c).opening ≠ (source d).opening →
    isSuffixOf c d = false

variable {good : κ → Prop} {c d : κ}

theorem isSuffixOf_eq_true_iff :
    isSuffixOf c d = true ↔ (source c).opening = (source d).opening ∧ position d ≤ position c := by
  rw [isSuffixOf, Bool.and_eq_true, beq_iff_eq, decide_eq_true_eq]

/-- Two walks that lead from one place to another and back have not moved. -/
theorem Walkable.eq_of_reaches (w : Walkable good) (hc : good c) (h : Reaches c d)
    (h' : Reaches d c) : d = c := by
  rcases w.eq_or_length_lt hc h with heq | hlt
  · exact heq
  · have hle := w.length_le (h.preserves w.next_mem hc) h'
    omega

/-- A set to walk in where positions follow the walk, and follow it alone. -/
structure Positioned (good : κ → Prop) : Prop extends Walkable good where
  source_next : ∀ c : κ, source (Cursor.next c) = source c
  position_le : ∀ c d, good c → Reaches c d → position c ≤ position d
  reaches : ∀ c d, good c → good d → source d = source c → position c ≤ position d → Reaches c d

namespace Positioned

theorem suffixOrder (w : Positioned good) {obtained : κ → Prop}
    (hgood : ∀ c, obtained c → good c)
    (hopened : ∀ c d, obtained c → obtained d → (source c).opening = (source d).opening →
      source c = source d) : SuffixOrder obtained where
  isSuffixOf_iff c d hc hd := by
    rw [isSuffixOf_eq_true_iff]
    refine and_congr_right fun hs => ⟨fun hle => ?_, fun h => w.position_le d c (hgood d hd) h⟩
    exact w.reaches d c (hgood d hd) (hgood c hc) (hopened c d hc hd hs) hle
  refl c _ := isSuffixOf_eq_true_iff.mpr ⟨rfl, Nat.le_refl _⟩
  trans c d e _ _ _ h h' := by
    rw [isSuffixOf_eq_true_iff] at h h' ⊢
    exact ⟨h.1.trans h'.1, Nat.le_trans h'.2 h.2⟩
  antisymm c d hc hd h h' := by
    rw [isSuffixOf_eq_true_iff] at h h'
    have hs : source c = source d := hopened c d hc hd h.1
    have hback : Reaches d c := w.reaches d c (hgood d hd) (hgood c hc) hs h.2
    have hforth : Reaches c d := w.reaches c d (hgood c hc) (hgood d hd) hs.symm h'.2
    exact w.eq_of_reaches (hgood d hd) hback hforth
  total c d _ _ hs := by
    rw [isSuffixOf_eq_true_iff, isSuffixOf_eq_true_iff]
    rcases Nat.le_total (position d) (position c) with hle | hle
    · exact Or.inl ⟨hs, hle⟩
    · exact Or.inr ⟨hs.symm, hle⟩
  apart c d _ _ hs := by
    rw [← Bool.not_eq_true, isSuffixOf_eq_true_iff]
    exact fun h => hs h.1

variable {L : Type → Type} {start : Source α → κ}
  {read : {β : Type} → L β → κ → Outcome κ ParseError β} {sources : Set (Source α)}

/-- If starts are good, and leaves walk on or go back to the start of the source, then everything
that is obtained is good and stays in the sources. -/
theorem good_of_obtained (w : Positioned good) (hstart : ∀ s, good (start s))
    (hsource : ∀ s, source (start s) = s)
    (hread : ∀ {β : Type} (l : L β) (c rest : κ) (v : β), good c → read l c = .success v rest →
      Reaches c rest ∨ rest = start (source c)) (h : Obtained start read sources c) :
    good c ∧ source c ∈ sources := by
  induction h with
  | start hs => exact ⟨hstart _, (hsource _).symm ▸ hs⟩
  | next _ ih =>
    obtain ⟨hc, hs⟩ := ih
    exact ⟨w.next_mem _ hc, (w.source_next _).symm ▸ hs⟩
  | leaf _ hl ih =>
    obtain ⟨hc, hs⟩ := ih
    rcases hread _ _ _ _ hc hl with hreaches | rfl
    · exact ⟨hreaches.preserves w.next_mem hc, (hreaches.source_eq w.source_next).symm ▸ hs⟩
    · exact ⟨hstart _, (hsource _).symm ▸ hs⟩

/-- What is obtained from sources that were opened one by one is in the order of suffixes. -/
theorem suffixOrder_of_obtained (w : Positioned good) (hopened : OpenedApart sources)
    (hstart : ∀ s, good (start s)) (hsource : ∀ s, source (start s) = s)
    (hread : ∀ {β : Type} (l : L β) (c rest : κ) (v : β), good c → read l c = .success v rest →
      Reaches c rest ∨ rest = start (source c)) : SuffixOrder (Obtained start read sources) := by
  have hgood : ∀ c, Obtained start read sources c → good c ∧ source c ∈ sources :=
    fun _ => w.good_of_obtained hstart hsource hread
  refine w.suffixOrder (fun c hc => (hgood c hc).1) fun c d hc hd hs => ?_
  exact hopened.eq_of_opening _ (hgood c hc).2 _ (hgood d hd).2 hs

end Positioned
end Cursor

/-- Wherever a leaf leaves off, steps lead there, or it is the start of the source. -/
theorem Leaf.reaches_or_restart {κ α β : Type} [Cursor κ α] [BEq α] [Atom α] {l : Leaf α β}
    {c rest : κ} {v : β} (h : l.read c = .success v rest) :
    Cursor.Reaches c rest ∨ rest = Cursor.restart c := by
  cases hl : l.goesBack with
  | false => exact Or.inl (reaches_of_read hl h)
  | true =>
    cases l with
    | restart => exact Or.inr (Outcome.success.inj h).2.symm
    | _ => cases hl

theorem TextLeaf.reaches_or_restart {β : Type} {l : TextLeaf β} {c rest : TextCursor} {v : β}
    (hc : c.OnBoundary) (h : TextLeaf.read l c = .success v rest) :
    Cursor.Reaches c rest ∨ rest = Cursor.restart c := by
  cases l with
  | inl l => exact l.reaches_or_restart h
  | inr s => exact Or.inl (Stretch.reaches_of_read hc h)

theorem TextCursor.positioned : Cursor.Positioned OnBoundary where
  toWalkable := walkable
  source_next := source_next
  position_le _ _ hc h := offset_le_of_reaches hc h
  reaches _ _ := reaches_of_offset_le

theorem ElementCursor.positioned {α : Type} [BEq α] [Atom α] :
    Cursor.Positioned (Canonical (α := α)) where
  toWalkable := walkable
  source_next := source_next
  position_le _ _ hc h := (position_le_of_reaches hc.inBounds h).2
  reaches _ _ := reaches_of_position_le

/-- To be a suffix is to be reachable. However many sources were opened that take up room, and
whatever they contain: of the cursors that a program comes by at their starts, by steps and from
leaves of any kind, one is a suffix of another exactly if both walk the same opened source and some
number of steps leads to the one from the other. So this is an order, two cursors over one opened
source are comparable, and two over different ones are not. -/
theorem suffix_is_reachability :
    (∀ sources : Set (Source Char), OpenedApart sources →
      Cursor.SuffixOrder (Cursor.Obtained TextCursor.start TextLeaf.read sources)) ∧
    ∀ {α : Type} [BEq α] [Atom α] (sources : Set (Source α)), OpenedApart sources →
      Cursor.SuffixOrder (Cursor.Obtained ElementCursor.start Leaf.read sources) := by
  constructor
  · intro sources hopened
    exact TextCursor.positioned.suffixOrder_of_obtained hopened TextCursor.onBoundary_start
      (fun _ => rfl) fun _ _ _ _ hc => TextLeaf.reaches_or_restart hc
  · intro α _ _ sources hopened
    exact ElementCursor.positioned.suffixOrder_of_obtained hopened ElementCursor.canonical_start
      ElementCursor.source_start fun _ _ _ _ _ => Leaf.reaches_or_restart

/-- The same text, opened twice. -/
def openedTwice : Set (Source Char) := {⟨0, ['é', 'a']⟩, ⟨1, ['é', 'a']⟩}

theorem openedTwice_apart : OpenedApart openedTwice where
  nonempty := by
    rintro s (rfl | rfl)
    · exact List.cons_ne_nil _ _
    · exact List.cons_ne_nil _ _
  eq_of_opening := by
    rintro s (rfl | rfl) t (rfl | rfl) h
    · rfl
    · cases h
    · cases h
    · rfl

/-- A token that equals nothing, alone in its source. -/
def neverAlone : Set (Source Token) := {⟨0, [.never]⟩}

theorem neverAlone_apart : OpenedApart neverAlone where
  nonempty := by
    rintro s rfl
    exact List.cons_ne_nil _ _
  eq_of_opening := by
    rintro s rfl t rfl _
    rfl

/-- Behind the text "é", a cursor is a suffix of the start of the text it was found in, but not of
that of the other one. The end behind a token that does not equal itself is a suffix of its
start. -/
theorem suffix_is_reachability_openedTwice :
    (let start := TextCursor.start ⟨0, ['é', 'a']⟩
      let behind : TextCursor := ⟨⟨0, ['é', 'a']⟩, 2⟩
      let other := TextCursor.start ⟨1, ['é', 'a']⟩
      Cursor.Obtained TextCursor.start TextLeaf.read openedTwice start ∧
        Cursor.Obtained TextCursor.start TextLeaf.read openedTwice behind ∧
        Cursor.Obtained TextCursor.start TextLeaf.read openedTwice other ∧
        Cursor.isSuffixOf behind start = true ∧ Cursor.Reaches start behind ∧
        Cursor.isSuffixOf behind other = false) ∧
    let start : ElementCursor Token := .within ⟨0, [.never]⟩ 0
    let ended : ElementCursor Token := .finished ⟨0, [.never]⟩
    Cursor.Obtained ElementCursor.start Leaf.read neverAlone start ∧
      Cursor.Obtained ElementCursor.start Leaf.read neverAlone ended ∧
      Cursor.Reaches start ended ∧ Cursor.isSuffixOf ended start = true := by
  constructor
  · intro start behind other
    have h := suffix_is_reachability.1 openedTwice openedTwice_apart
    have hstart : Cursor.Obtained TextCursor.start TextLeaf.read openedTwice start :=
      .start (Or.inl rfl)
    have hother : Cursor.Obtained TextCursor.start TextLeaf.read openedTwice other :=
      .start (Or.inr rfl)
    have hread : TextLeaf.read (.inr (.tag ['é'])) start = .success ['é'] behind := rfl
    have hbehind : Cursor.Obtained TextCursor.start TextLeaf.read openedTwice behind :=
      .leaf hstart hread
    have hsuffix : Cursor.isSuffixOf behind start = true := rfl
    exact ⟨hstart, hbehind, hother, hsuffix,
      ((h.isSuffixOf_iff behind start hbehind hstart).mp hsuffix).2,
      h.apart behind other hbehind hother (by decide)⟩
  · intro start ended
    have h := suffix_is_reachability.2 neverAlone neverAlone_apart
    have hmem : (⟨0, [.never]⟩ : Source Token) ∈ neverAlone := Set.mem_singleton _
    have hstart : Cursor.Obtained ElementCursor.start Leaf.read neverAlone start := .start hmem
    have hended : Cursor.Obtained ElementCursor.start Leaf.read neverAlone ended := .next hstart
    have hreaches : Cursor.Reaches start ended := ⟨1, rfl⟩
    exact ⟨hstart, hended, hreaches,
      (h.isSuffixOf_iff ended start hended hstart).mpr ⟨rfl, hreaches⟩⟩

end Descent
