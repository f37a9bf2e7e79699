import Descent.Proofs.Cursor.Line
import Descent.Proofs.Leaf.Alike

/-!
# Texts as sequences of characters

A text can be walked by bytes or, as a sequence of characters, by index. A grammar whose leaves
take one atom at a time and do not tell positions cannot see which: it ends alike on both, and the
two walks leave off, or report their error, at one place of the text and on one line.
-/
namespace Descent

/-- A byte offset and an index that stand for one place in the text `s`, and leave the same of it. -/
structure TextCursor.Corresponds (s : List Char) (c : TextCursor) (d : ElementCursor Char) :
    Prop where
  remaining_eq : c.remaining = d.remaining
  position_le : d.position ≤ s.length
  offset_eq : c.offset = Utf8.byteSize (s.take d.position)

/-- Locations of one place in the text `s`, by bytes and by index. -/
structure Location.Corresponds (s : List Char) (l l' : Location) : Prop where
  line_eq : l.line = l'.line
  position_le : l'.position ≤ s.length
  position_eq : l.position = Utf8.byteSize (s.take l'.position)

section
variable {s : List Char} {o o' : Nat} {c : TextCursor} {d : ElementCursor Char}

/-- After `n` characters both cursors stand where the first `n` characters end. -/
theorem corresponds_of_inStep
    (h : Cursor.InStep (TextCursor.start ⟨o, s⟩) (ElementCursor.start ⟨o', s⟩) c d) :
    TextCursor.Corresponds s c d ∧
      Location.Corresponds s (Cursor.location c) (Cursor.location d) := by
  have hsource : c.source = ⟨o, s⟩ := TextCursor.source_eq_of_reaches h.left
  have hsource' : d.source = ⟨o', s⟩ :=
    (ElementCursor.source_eq_of_reaches h.right).trans (ElementCursor.source_start _)
  obtain ⟨n, hn, hn'⟩ := h
  obtain ⟨hremaining, hoffset⟩ : c.remaining = s.drop n ∧ c.offset = Utf8.byteSize (s.take n) :=
    hn ▸ TextCursor.iterate_next_start ⟨o, s⟩ n
  obtain ⟨hremaining', hposition⟩ : d.remaining = s.drop n ∧ d.position = (s.take n).length :=
    hn' ▸ ElementCursor.iterate_next_start ⟨o', s⟩ n
  have hle : d.position ≤ s.length := by
    rw [hposition, List.length_take]
    exact Nat.min_le_right n s.length
  have htake : s.take d.position = s.take n := by
    rw [hposition, List.length_take, List.take_eq_take_iff]
    omega
  have hsplit : c.source.elements = s.take n ++ s.drop n := by
    rw [hsource, List.take_append_drop]
  have hline : (Cursor.location c).line = 1 + (s.take n).countP Atom.isNewline :=
    TextCursor.line_location hsplit hoffset.symm
  have hline' : (Cursor.location d).line = 1 + (s.take n).countP Atom.isNewline := by
    rw [ElementCursor.line_location, hsource', htake]
  refine ⟨⟨hremaining.trans hremaining'.symm, hle, ?_⟩, hline.trans hline'.symm, ?_, ?_⟩
  · rw [hoffset, htake]
  · rwa [ElementCursor.position_location]
  · rw [TextCursor.position_location, ElementCursor.position_location, hoffset, htake]

theorem similar_text_elements (s : List Char) (o o' : Nat) :
    Cursor.Similar (Cursor.InStep (TextCursor.start ⟨o, s⟩) (ElementCursor.start ⟨o', s⟩))
      (Location.Corresponds s) := by
  have hsound : (ElementCursor.start (⟨o', s⟩ : Source Char)).Sound :=
    ⟨ElementCursor.canonical_start _, fun x _ => beq_self_eq_true x⟩
  have hremaining : (TextCursor.start ⟨o, s⟩).remaining =
      (ElementCursor.start (⟨o', s⟩ : Source Char)).remaining := by
    rw [TextCursor.remaining_start, ElementCursor.remaining_start]
  exact Cursor.similar_inStep TextCursor.trackable ElementCursor.trackable
    (TextCursor.onBoundary_start _) hsound hremaining fun _ _ h => (corresponds_of_inStep h).2

/-- Both cursors go back to where their texts start. -/
theorem inStep_restart
    (h : Cursor.InStep (TextCursor.start ⟨o, s⟩) (ElementCursor.start ⟨o', s⟩) c d) :
    Cursor.InStep (TextCursor.start ⟨o, s⟩) (ElementCursor.start ⟨o', s⟩) (Cursor.restart c)
      (Cursor.restart d) := by
  have hc : Cursor.restart c = TextCursor.start ⟨o, s⟩ :=
    congrArg TextCursor.start (TextCursor.source_eq_of_reaches h.left)
  have hd : Cursor.restart d = ElementCursor.start ⟨o', s⟩ :=
    congrArg ElementCursor.start
      ((ElementCursor.source_eq_of_reaches h.right).trans (ElementCursor.source_start _))
  rw [hc, hd]
  exact Cursor.InStep.refl _ _

end

/-- From the `n`-th place of a text, a grammar ends alike whether the text is walked by bytes or by
characters: with the same value and the same characters left, with the same error on the same
line, or not at all within the budget. -/
theorem text_runs_as_elements {ρ V β : Type} (rules : Rules (Leaf Char) ρ V)
    (g : Grammar (Leaf Char) ρ V β) (hrules : rules.AllLeaves (·.tellsPosition = false))
    (hg : g.AllLeaves (·.tellsPosition = false)) (s : List Char) (o o' n budget : Nat) :
    (rules.run Leaf.read budget g (Cursor.next^[n] (TextCursor.start ⟨o, s⟩))).Alike
      (TextCursor.Corresponds s) (ParseError.Alike (Location.Corresponds s))
      (rules.run Leaf.read budget g (Cursor.next^[n] (ElementCursor.start ⟨o', s⟩))) := by
  have hsimilar := similar_text_elements s o o'
  have hrun := Rules.run_alike hsimilar.simulation
    (fun l hl c d hcd => Leaf.read_alike hsimilar hl (fun _ => inStep_restart hcd) hcd)
    hrules budget g hg _ _ ⟨n, rfl, rfl⟩
  exact hrun.imp (fun _ _ h => (corresponds_of_inStep h).1) fun _ _ h => h

/-- Some characters and a semicolon. -/
def statement : Rules (Leaf Char) Unit Unit := fun _ =>
  .ok (((Grammar.leaf (.exactly ';')).erase).orElse
    ((Grammar.leaf .any).andThen (.call ())))

theorem text_runs_as_elements_unfinished :
    let s : List Char := ['ä', '\n', 'ß']
    let start : TextCursor := Cursor.next^[1] (TextCursor.start ⟨0, s⟩)
    let start' : ElementCursor Char := Cursor.next^[1] (ElementCursor.start ⟨1, s⟩)
    let run := statement.run Leaf.read 4 (.call ()) start
    let run' := statement.run Leaf.read 4 (.call ()) start'
    run.outcome? = some (.failure (.endOfInput ⟨5, 2, 2⟩)) ∧
      run'.outcome? = some (.failure (.endOfInput ⟨3, 2, 1⟩)) ∧
      run.Alike (TextCursor.Corresponds s) (ParseError.Alike (Location.Corresponds s)) run' := by
  refine ⟨rfl, rfl, ?_⟩
  refine text_runs_as_elements statement (.call ()) ?_ trivial _ 0 1 1 4
  intro r g hg
  obtain rfl := Except.ok.inj hg
  simp [Grammar.AllLeaves, Grammar.andThen, Grammar.erase, Grammar.map, Leaf.tellsPosition]

end Descent
