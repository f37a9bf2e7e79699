import Descent.Pattern.NormalForm
import Descent.Proofs.Pattern.Threads

/-!
# Code after a condition

The code of a pattern jumps by distances and never to before its own start, so it does the same
wherever it is placed. Here it is placed after one condition: what takes characters then takes them
where the condition holds, and takes what the code alone takes.
-/
namespace Descent.Pattern

open Relation (ReflTransGen)

theorem code_andThen (p q : Pattern) : (p.andThen q).code = p.code ++ q.code := by
  induction p generalizing q with
  | empty => rfl
  | seq p r ihp ihr => rw [andThen, ihp, ihr, code, List.append_assoc]
  | literal cs =>
    unfold andThen
    split <;> simp_all [code]
  | _ => cases q <;> simp [andThen, code]

/-! ### Jumps inside the code -/

/-- No jump leads to before the start of the code. -/
def JumpsInside (steps : List Step) : Prop :=
  ∀ k jumps n, steps[k]? = some (.fork jumps) → Jump.back n ∈ jumps → n ≤ k

namespace JumpsInside
variable {steps xs ys : List Step}

theorem nil : JumpsInside [] := by
  intro k jumps n h
  simp at h

theorem append (hx : JumpsInside xs) (hy : JumpsInside ys) : JumpsInside (xs ++ ys) := by
  intro k jumps n h hn
  by_cases hk : k < xs.length
  · rw [List.getElem?_append_left hk] at h
    exact hx k jumps n h hn
  · rw [List.getElem?_append_right (by omega)] at h
    have := hy _ jumps n h hn
    omega

theorem flatten {parts : List (List Step)} (h : ∀ xs ∈ parts, JumpsInside xs) :
    JumpsInside parts.flatten := by
  induction parts with
  | nil => exact nil
  | cons xs parts ih =>
    obtain ⟨hx, hparts⟩ := List.forall_mem_cons.mp h
    exact hx.append (ih hparts)

/-- A fork after the code may lead back to its start. -/
theorem snoc {jumps : List Jump} (h : JumpsInside steps)
    (hback : ∀ n, .back n ∈ jumps → n ≤ steps.length) : JumpsInside (steps ++ [.fork jumps]) := by
  intro k jumps' n hk hn
  by_cases hlt : k < steps.length
  · rw [List.getElem?_append_left hlt] at hk
    exact h k jumps' n hk hn
  · rw [List.getElem?_append_right (by omega)] at hk
    obtain ⟨hend, hfork⟩ := List.getElem?_eq_some_iff.mp hk
    have hlen : k - steps.length < 1 := hend
    obtain rfl : jumps = jumps' := by simpa using hfork
    have := hback n hn
    omega

/-- A step that does not jump back. -/
theorem single {s : Step} (h : ∀ jumps n, s = .fork jumps → .back n ∉ jumps) : JumpsInside [s] := by
  intro k jumps n hk hn
  have hs : .fork jumps = s := List.mem_singleton.mp (List.mem_of_getElem? hk)
  exact absurd hn (h jumps n hs.symm)

theorem cons {s : Step} (hs : ∀ jumps n, s = .fork jumps → .back n ∉ jumps)
    (h : JumpsInside steps) : JumpsInside (s :: steps) :=
  (single hs).append h

theorem choice_ahead (greedy : Bool) (m n : Nat) (h : JumpsInside steps) :
    JumpsInside (choice greedy (.ahead m) (.ahead n) :: steps) := by
  refine h.cons fun jumps k hfork => ?_
  obtain rfl := Step.fork.inj hfork
  cases greedy <;> simp

theorem copies (n : Nat) (h : JumpsInside steps) : JumpsInside (copies n steps) :=
  flatten fun xs hxs => by rw [List.eq_of_mem_replicate hxs]; exact h

theorem optionalCopies (greedy : Bool) (n : Nat) (h : JumpsInside steps) :
    JumpsInside (optionalCopies greedy n steps) := by
  rw [Pattern.optionalCopies, List.flatMap_def]
  refine flatten fun xs hxs => ?_
  obtain ⟨i, -, rfl⟩ := List.mem_map.mp hxs
  exact h.choice_ahead greedy _ _

theorem onceOrMore (greedy : Bool) (h : JumpsInside steps) :
    JumpsInside (onceOrMore greedy steps) := by
  refine h.snoc fun n hn => ?_
  cases greedy <;> simp_all

theorem anyNumber (greedy consumes : Bool) (h : JumpsInside steps) :
    JumpsInside (anyNumber greedy consumes steps) := by
  unfold Pattern.anyNumber
  split
  · refine (h.choice_ahead greedy _ _).snoc fun n hn => ?_
    simp_all
  · exact (h.onceOrMore greedy).choice_ahead greedy _ _

end JumpsInside

/-- The code of a pattern keeps to itself. -/
theorem jumpsInside_code (p : Pattern) : JumpsInside p.code := by
  induction p with
  | empty => exact .nil
  | literal text =>
    intro k jumps n hk
    simp [code] at hk
  | set a s => exact .single (by simp)
  | look l => exact .single (by simp)
  | seq p q ihp ihq => exact ihp.append ihq
  | alt p q ihp ihq =>
    refine (ihp.cons fun jumps n h => ?_).append (ihq.cons fun jumps n h => ?_) <;>
      simp [← Step.fork.inj h]
  | repeated p least most greedy ih =>
    unfold code
    dsimp only
    split
    · exact ih.anyNumber greedy _
    · exact (ih.copies _).append (ih.onceOrMore greedy)
    · exact (ih.copies _).append (ih.optionalCopies greedy _)
  | group n p ih => exact ih

theorem jumpsInside_program (p : Pattern) : JumpsInside p.program :=
  (jumpsInside_code p).append (.single (by simp))

/-! ### Moves in placed code -/

section
variable {steps : List Step} {l : Look} {text : List Char} {i j k : Nat}

/-- Where a step leads, one step further on. -/
theorem onward_succ {s : Step} (before after : Option Char)
    (h : ∀ jumps n, s = .fork jumps → Jump.back n ∈ jumps → n ≤ k) :
    s.onward before after (k + 1) = (s.onward before after k).map (· + 1) := by
  cases s with
  | fork jumps =>
    simp only [Step.onward, List.map_map]
    refine List.map_congr_left fun jump hjump => ?_
    cases jump with
    | ahead n => simp [Jump.target]; omega
    | back n =>
      have := h jumps n rfl hjump
      simp [Jump.target]
      omega
  | assert l => simp only [Step.onward]; split <;> rfl
  | consume s => rfl
  | accept => rfl

/-- A thread in the code after the condition moves as it does in the code alone. -/
theorem Moves.placed {b : Nat × Nat} (hin : JumpsInside steps)
    (h : Moves (.assert l :: steps).toArray text (k + 1, i) b) :
    ∃ k', b = (k' + 1, b.2) ∧ Moves steps.toArray text (k, i) (k', b.2) := by
  cases h with
  | @onward _ k' _ s hs hk =>
    have hs : steps.toArray[k]? = some s := by simpa using hs
    rw [onward_succ _ _ fun jumps n hfork => hin k jumps n (by simpa [hfork] using hs)] at hk
    obtain ⟨k', hk', rfl⟩ := List.mem_map.mp hk
    exact ⟨k', rfl, .onward hs hk'⟩
  | read hs hc hmem => exact ⟨k + 1, rfl, .read (by simpa using hs) hc hmem⟩

theorem reachable_placed {b : Nat × Nat} (hin : JumpsInside steps)
    (h : ReflTransGen (Moves (.assert l :: steps).toArray text) (1, i) b) :
    ∃ k, b = (k + 1, b.2) ∧ ReflTransGen (Moves steps.toArray text) (0, i) (k, b.2) := by
  induction h with
  | refl => exact ⟨0, rfl, .refl⟩
  | tail _ hmove ih =>
    obtain ⟨k, hb, hmoves⟩ := ih
    rw [hb] at hmove
    obtain ⟨k', hc, hmove'⟩ := hmove.placed hin
    exact ⟨k', hc, hmoves.tail hmove'⟩

/-- Code after a condition takes what it takes alone, where the condition holds. -/
theorem Takes.of_placed (hin : JumpsInside steps)
    (h : Takes (.assert l :: steps).toArray text i j) :
    l.holds (charBefore text i) text[i]? = true ∧ Takes steps.toArray text i j := by
  obtain ⟨hi, k, hmoves, haccept⟩ := h
  obtain hstart | ⟨b, hmove, hmoves⟩ := hmoves.cases_head
  · obtain ⟨rfl, -⟩ := Prod.mk.inj hstart
    simp at haccept
  · cases hmove with
    | @onward _ k' _ s hs hk =>
      obtain rfl : s = .assert l := by simpa using hs.symm
      simp only [Step.onward] at hk
      split at hk
      · next hholds =>
        obtain rfl : k' = 1 := by simpa using hk
        obtain ⟨k, hb, hmoves⟩ := reachable_placed hin hmoves
        obtain ⟨rfl, -⟩ := Prod.mk.inj hb
        exact ⟨hholds, hi, k, hmoves, by simpa using haccept⟩
      · cases hk
    | read hs => simp at hs

/-- Code after the condition that the text starts takes characters only there. -/
theorem Takes.start_eq_zero (hin : JumpsInside steps)
    (h : Takes (.assert .textStart :: steps).toArray text i j) : i = 0 :=
  (charBefore_eq_none_iff h.starts).mp (Option.isNone_iff_eq_none.mp (h.of_placed hin).1)

end
end Descent.Pattern
