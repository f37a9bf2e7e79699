import Descent.Proofs.Pattern.Placement

/-!
# The longest run of a set

A pattern for one or more characters of a set, anchored, forks after every character between
another one and the end of the match, and prefers another one. The search keeps that preference:
it takes the longest run of such characters that the text begins with, or finds nothing if there
is none.
-/
namespace Descent.Pattern

/-- One or more characters of a set, from the start of the text on. -/
def anchoredRun (s : CodePoints) : Pattern :=
  .seq (.look .textStart) (.repeated (.set .unicode s) 1 none true)

theorem program_anchoredRun (s : CodePoints) : (anchoredRun s).program.toArray =
    #[.assert .textStart, .consume s, .fork [.back 1, .ahead 1], .accept] := rfl

section
variable (s : CodePoints) {c : Char}

/-- At the start of the text the only thread waits for a first character. -/
theorem reached_at_start (after : Option Char) :
    reached (anchoredRun s).program.toArray none after [0] = [1] := rfl

/-- After a character of the set, the preferred thread waits for another one, and the match may
end here. -/
theorem reached_within (before after : Option Char) :
    reached (anchoredRun s).program.toArray before after [2] = [1, 3] := rfl

theorem advance_waiting (c : Char) : advance (anchoredRun s).program.toArray c [1] =
    if s.contains c then [2] else [] := by
  rw [program_anchoredRun]
  cases hc : s.contains c <;> simp [advance, hc]

/-- Once a character has been read, all further ones of the set are taken. -/
theorem run_within (before : Option Char) (count : Nat) (best : Option Nat) (text : List Char) :
    run (anchoredRun s).program.toArray before [2] count best text =
      some (count + (text.takeWhile s.contains).length) := by
  induction text generalizing before count best with
  | nil => rfl
  | cons c text ih =>
    have hwaiting : [1, 3].takeWhile (!accepts (anchoredRun s).program.toArray ·) = [1] := rfl
    have hends : [1, 3].any (accepts (anchoredRun s).program.toArray) = true := rfl
    rw [run, reached_within, hwaiting, hends, if_pos rfl, advance_waiting, List.takeWhile_cons]
    cases s.contains c with
    | false => rfl
    | true =>
      have hnext := ih (some c) (count + 1) (some count)
      rw [if_pos rfl, if_pos rfl, List.length_cons]
      exact hnext.trans (congrArg some (by omega))

theorem run_at_start (text : List Char) :
    run (anchoredRun s).program.toArray none [0] 0 none text =
      if text.takeWhile s.contains = [] then none
      else some (text.takeWhile s.contains).length := by
  cases text with
  | nil => rfl
  | cons c text =>
    have hwaiting : [1].takeWhile (!accepts (anchoredRun s).program.toArray ·) = [1] := rfl
    have hends : [1].any (accepts (anchoredRun s).program.toArray) = false := rfl
    rw [run, reached_at_start, hwaiting, hends, advance_waiting, List.takeWhile_cons]
    cases s.contains c with
    | false => rfl
    | true =>
      have hnext := run_within s (some c) 1 none text
      rw [if_pos rfl, if_pos rfl, if_neg (List.cons_ne_nil _ _), List.length_cons]
      exact hnext.trans (congrArg some (Nat.add_comm _ _))

/-- The match is the longest run of characters of the set that the text begins with. -/
theorem find_anchoredRun (text : List Char) :
    find (anchoredRun s).program.toArray text =
      if text.takeWhile s.contains = [] then none
      else some ⟨0, (text.takeWhile s.contains).length⟩ := by
  rw [find, findFrom.eq_def, run_at_start]
  by_cases hrun : text.takeWhile s.contains = []
  · rw [if_pos hrun, if_pos hrun]
    cases text with
    | nil => rfl
    | cons c text =>
      cases hm : findFrom (anchoredRun s).program.toArray (some c) 1 text with
      | none => exact hm
      | some m =>
        -- such a match would start after a character
        have hin := jumpsInside_program (.repeated (.set .unicode s) 1 none true)
        obtain ⟨hlater, htakes⟩ := @findFrom_sound _ (c :: text) 1 m (by simp) hm
        have hstart := Takes.start_eq_zero hin htakes
        omega
  · rw [if_neg hrun, if_neg hrun]

end
end Descent.Pattern
