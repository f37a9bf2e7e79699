import Descent.Proofs.Leaf.Walk
import Descent.Proofs.Pattern.Standard

/-!
# Where a pattern matches

The leaf for a pattern takes the first match that the engine finds in the remaining text. A text that
is a pattern by itself is matched after the condition of the anchor, which holds only where the
remaining text starts, so the first match is at the cursor or there is none.
-/
namespace Descent

theorem Pattern.Span.upTo_eq (m : Pattern.Span) (text : List Char) :
    m.upTo text = text.take m.start ++ m.of text :=
  List.take_add

theorem exists_eq_ok {ε α β : Type} {x : Except ε α} {f : α → β} {b : β}
    (h : x.toOption.map f = some b) : ∃ a, x = .ok a ∧ f a = b := by
  cases x with
  | error e => cases h
  | ok a => exact ⟨a, rfl, Option.some.inj h⟩

namespace PatternEngine
variable {engine : PatternEngine} {text : String} {q : AnchoredPattern}

theorem anchored_eq_ok_iff : engine.anchored text = .ok q ↔
    engine.compile (anchoredText text.toList) = .ok q.find ∧ q.text = text := by
  unfold anchored
  cases engine.compile (anchoredText text.toList) with
  | error e => simp [Except.map]
  | ok find =>
    obtain ⟨text', find'⟩ := q
    simp [Except.map, and_comm, eq_comm]

end PatternEngine

namespace Stretch

variable {engine : PatternEngine} {Matches : List Char → List Char → Nat → Nat → Prop}
  {text : String} {q : AnchoredPattern} {c : TextCursor}

/-- What a pattern does at a cursor. -/
theorem readPattern_eq (q : AnchoredPattern) (c : TextCursor) :
    (∃ m, q.find c.remaining = some m ∧
      readPattern q c = .success (m.of c.remaining)
        (c.skipBytes (Utf8.byteSize (m.upTo c.remaining)))) ∨
    q.find c.remaining = none ∧ readPattern q c = .failure
      (if Cursor.atEnd c then .endOfInput (Cursor.location c)
        else .noMatch q.text (Cursor.location c)) := by
  unfold readPattern
  cases hm : q.find c.remaining with
  | some m => exact .inl ⟨m, rfl, rfl⟩
  | none =>
    refine .inr ⟨rfl, ?_⟩
    dsimp only
    split <;> rfl

/-- What a text that is accepted as a pattern does at a cursor. -/
structure MatchesAt (engine : PatternEngine)
    (Matches : List Char → List Char → Nat → Nat → Prop) (text : String) (q : AnchoredPattern)
    (c : TextCursor) : Prop where
  /-- The value is a stretch of the source, which ends where the cursor moves to. If the text is a
  pattern by itself, it starts at the cursor, and the pattern matches it there. -/
  success : ∀ value rest, readPattern q c = .success value rest →
    ∃ passed skipped after, c.source.elements = passed ++ c.remaining ∧
      Utf8.byteSize passed = c.offset ∧ c.remaining = skipped ++ value ++ after ∧
      rest = ⟨c.source, Utf8.byteSize (passed ++ skipped ++ value)⟩ ∧
      (engine.Valid text.toList →
        skipped = [] ∧ value <+: c.remaining ∧ rest = c.skipBytes (Utf8.byteSize value) ∧
        Matches text.toList c.remaining 0 value.length)
  /-- A failure is the end of the input if the cursor is there, and names the text otherwise. -/
  failure : ∀ e, readPattern q c = .failure e →
    e = if Cursor.atEnd c then .endOfInput (Cursor.location c)
      else .noMatch text (Cursor.location c)

/-- Where an engine keeps what is documented, a pattern matches at the cursor or fails, if its text
is a pattern by itself. -/
theorem matchesAt_of_anchored (hengine : engine.Documented Matches)
    (hq : engine.anchored text = .ok q) (hc : c.OnBoundary) : MatchesAt engine Matches text q c := by
  obtain ⟨hfind, rfl⟩ := PatternEngine.anchored_eq_ok_iff.mp hq
  obtain ⟨m, hm, hread⟩ | ⟨-, hread⟩ := readPattern_eq q c
  · refine ⟨fun value rest h => ?_, fun e h => by simp [hread] at h⟩
    obtain ⟨rfl, rfl⟩ := Outcome.success.inj (hread.symm.trans h)
    obtain ⟨passed, he, ho⟩ := hc
    have hsplit : c.remaining = c.remaining.take m.start ++ m.of c.remaining ++
        (c.remaining.drop m.start).drop m.length := by
      rw [List.append_assoc, Pattern.Span.of, List.take_append_drop, List.take_append_drop]
    refine ⟨passed, _, _, he, ho, hsplit, ?_, fun hvalid => ?_⟩
    · have hlen := congrArg Utf8.byteSize hsplit
      simp only [TextCursor.skipBytes, he, Pattern.Span.upTo_eq, Utf8.byteSize_append, ho,
        TextCursor.mk.injEq, true_and] at hlen ⊢
      omega
    · have hmatch := hengine.found hfind hm
      have hinside := hengine.inside hmatch
      obtain ⟨k, hcaret, hmatch⟩ := hengine.sideBySide hvalid hmatch
      obtain ⟨hstart, rfl⟩ := hengine.textStart hcaret
      rw [hstart, Nat.zero_add] at hmatch hinside
      have hvalue : m.of c.remaining = c.remaining.take m.length := by
        rw [Pattern.Span.of, hstart, List.drop_zero]
      rw [Pattern.Span.upTo_eq, hvalue, hstart]
      refine ⟨rfl, List.take_prefix _ _, rfl, ?_⟩
      rwa [List.length_take, Nat.min_eq_left hinside.2]
  · exact ⟨fun value rest h => by simp [hread] at h,
      fun e h => (Outcome.failure.inj (hread.symm.trans h)).symm⟩

/-- A branch that is not the first one, after a character of two bytes. -/
theorem matchesAt_of_anchored_choice :
    let c : TextCursor := ⟨⟨0, ['é', 'c', 'a']⟩, 2⟩
    PatternEngine.standard.Documented Pattern.Matches ∧
      PatternEngine.standard.Valid "ab|c".toList ∧ c.OnBoundary ∧
      ∃ q, PatternEngine.standard.anchored "ab|c" = .ok q ∧
        MatchesAt .standard Pattern.Matches "ab|c" q c ∧
        readPattern q c = .success ['c'] ⟨c.source, 3⟩ ∧
        Pattern.Matches "ab|c".toList c.remaining 0 1 := by
  intro c
  have hengine := PatternEngine.standard_documented
  have hc : c.OnBoundary := ⟨['é'], rfl, rfl⟩
  obtain ⟨find, hvalid, -⟩ := exists_eq_ok (x := PatternEngine.standard.compile "ab|c".toList)
    (f := fun _ => ()) (b := ()) (by decide +kernel)
  obtain ⟨q, hq, hfind⟩ := exists_eq_ok (x := PatternEngine.standard.anchored "ab|c")
    (f := fun q => q.find ['c', 'a']) (b := some ⟨0, 1⟩) (by decide +kernel)
  have hread : readPattern q c = .success ['c'] ⟨c.source, 3⟩ := by
    obtain ⟨m, hm, hread⟩ | ⟨hnone, -⟩ := readPattern_eq q c
    · obtain rfl := Option.some.inj (hm.symm.trans hfind)
      exact hread
    · exact absurd (hnone.symm.trans hfind) (Option.some_ne_none _).symm
  have hmatches := matchesAt_of_anchored hengine hq hc
  obtain ⟨_, _, _, -, -, -, -, hstart⟩ := hmatches.success _ _ hread
  exact ⟨hengine, ⟨find, hvalid⟩, hc, q, hq, hmatches, hread, (hstart ⟨find, hvalid⟩).2.2.2⟩

/-- A text that closes the group of its anchor is no pattern by itself, and may match after the
cursor. -/
example : (PatternEngine.standard.anchored "a)|(?:b").toOption.map (·.find ['x', 'b']) =
    some (some ⟨1, 1⟩) := by decide +kernel

end Stretch
end Descent
