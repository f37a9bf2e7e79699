import Descent.Pattern.Standard
import Descent.Proofs.Pattern.Anchoring
import Descent.Proofs.Pattern.Placement

/-!
# The standard engine keeps what is documented

What a pattern matches is what a thread of its program can take. The search finds nothing else. The
program for an anchored text is the program for the text itself after one condition, so that a match
of the one is a match of the other where the condition holds, at the start of the text.
-/
namespace Descent.Pattern

/-- The pattern that a text denotes matches the text `text` from the place `i` to the place `j`. -/
def Matches (pattern text : List Char) (i j : Nat) : Prop :=
  ∃ p, read? pattern = some p ∧ Takes p.program.toArray text i j

variable {text : List Char} {i j : Nat}

/-- The program of a text that is anchored, in terms of the program for the text itself. -/
theorem program_anchored (r : Reader) :
    r.anchored.alternation.value.program =
      .assert .textStart :: r.alternation.value.program := by
  change ((look .textStart).andThen (r.alternation.value.andThen empty)).program = _
  simp [program, code_andThen, code]

/-- An anchored text matches only where the text starts, and matches what the text itself does. -/
theorem takes_of_anchored {pattern : List Char} {p : Pattern} (hp : read? pattern = some p)
    (h : Matches (PatternEngine.anchoredText pattern) text i j) :
    i = 0 ∧ Takes p.program.toArray text i j := by
  obtain ⟨p', hp', htakes⟩ := h
  obtain ⟨r, hr, -, rfl⟩ := read?_eq_some_iff.mp hp
  obtain ⟨r', hr', -, rfl⟩ := read?_eq_some_iff.mp hp'
  obtain rfl := hr'.unique (hr.anchored ⟨r', hr'⟩)
  rw [program_anchored] at htakes
  have hin := jumpsInside_program r.alternation.value
  exact ⟨htakes.start_eq_zero hin, (htakes.of_placed hin).2⟩

theorem read?_caret : read? ['^'] = some (look .textStart) := by decide

theorem end_eq_of_takes_empty (h : Takes empty.program.toArray text i j) : j = i := by
  obtain ⟨-, k, hmoves, -⟩ := h
  obtain hend | ⟨b, hmove, -⟩ := hmoves.cases_head
  · exact (Prod.mk.inj hend).2.symm
  · cases hmove with
    | @onward _ k' _ s hs hk =>
      obtain rfl : s = .accept := by simpa [program, code] using hs.symm
      cases hk
    | read hs => simp [program, code] at hs

theorem matches_caret_iff : Matches ['^'] text i j ↔ i = 0 ∧ j = 0 := by
  constructor
  · rintro ⟨p, hp, htakes⟩
    obtain rfl := Option.some.inj (hp.symm.trans read?_caret)
    have hin := jumpsInside_program empty
    obtain rfl := Takes.start_eq_zero hin htakes
    exact ⟨rfl, end_eq_of_takes_empty (Takes.of_placed hin htakes).2⟩
  · rintro ⟨rfl, rfl⟩
    exact ⟨_, read?_caret, Nat.zero_le _, 1, .single (.onward rfl (List.mem_singleton_self 1)), rfl⟩

end Descent.Pattern

namespace Descent.PatternEngine

open Pattern

theorem standard_compile_eq_ok {pattern : List Char} {find : List Char → Option Span}
    (h : standard.compile pattern = .ok find) :
    ∃ p, read? pattern = some p ∧ find = Pattern.find p.program.toArray := by
  simp only [standard] at h
  split at h
  · cases h
  · next p hp =>
    split at h
    · exact ⟨p, hp, (Except.ok.inj h).symm⟩
    · cases h

/-- The standard engine keeps what is documented of engines, for all patterns and texts. -/
theorem standard_documented : standard.Documented Pattern.Matches where
  inside := fun ⟨_, _, htakes⟩ => htakes.inside
  found hfind hm := by
    obtain ⟨p, hp, rfl⟩ := standard_compile_eq_ok hfind
    exact ⟨p, hp, find_sound hm⟩
  sideBySide hvalid h := by
    obtain ⟨find, hfind⟩ := hvalid
    obtain ⟨p, hp, -⟩ := standard_compile_eq_ok hfind
    obtain ⟨rfl, htakes⟩ := takes_of_anchored hp h
    exact ⟨0, matches_caret_iff.mpr ⟨rfl, rfl⟩, p, hp, htakes⟩
  textStart := matches_caret_iff.mp

end Descent.PatternEngine
