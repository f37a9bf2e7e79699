import Mathlib.Logic.Relation
import Mathlib.Data.List.Basic
import Descent.Pattern.Search

/-!
# Threads

What a search does, seen from one of its threads: it is at a step of the program and at a place of
the text, and moves through forks and conditions or past a character. The search keeps many threads
at once and drops the ones that are not preferred, but those that it keeps have all come to where
they are by such moves, so a match that it finds is one that a thread has found.
-/
namespace Descent.Pattern

open Relation (ReflTransGen)

variable {program : Array Step} {text : List Char}

/-- The character before a place of a text. -/
def charBefore (text : List Char) (i : Nat) : Option Char :=
  (text.take i).getLast?

theorem charBefore_eq_none_iff {i : Nat} (hi : i ≤ text.length) :
    charBefore text i = none ↔ i = 0 := by
  rw [charBefore, List.getLast?_eq_none_iff, List.take_eq_nil_iff]
  constructor
  · rintro (rfl | rfl)
    · rfl
    · simpa using hi
  · exact Or.inl

theorem charBefore_succ {i : Nat} {c : Char} (hc : text[i]? = some c) :
    charBefore text (i + 1) = some c := by
  rw [charBefore, List.take_add_one, hc]
  simp

theorem drop_eq_cons {i : Nat} {c : Char} {rest : List Char} (h : text.drop i = c :: rest) :
    text[i]? = some c ∧ text.drop (i + 1) = rest := by
  rw [← List.head?_drop, ← List.drop_drop, h]
  exact ⟨rfl, rfl⟩

/-- A thread, which is at a step of the program and at a place of the text, makes one move. -/
inductive Moves (program : Array Step) (text : List Char) : Nat × Nat → Nat × Nat → Prop where
  | onward {k k' i : Nat} {s : Step} (hs : program[k]? = some s)
    (hk : k' ∈ s.onward (charBefore text i) text[i]? k) : Moves program text (k, i) (k', i)
  | read {k i : Nat} {s : CodePoints} {c : Char} (hs : program[k]? = some (.consume s))
    (hc : text[i]? = some c) (hin : s.contains c = true) :
    Moves program text (k, i) (k + 1, i + 1)

/-- A thread that starts at the place `i` of the text can accept at the place `j`. -/
structure Takes (program : Array Step) (text : List Char) (i j : Nat) : Prop where
  starts : i ≤ text.length
  accepts : ∃ k, ReflTransGen (Moves program text) (0, i) (k, j) ∧ program[k]? = some .accept

/-- A move leads to the same place or to the next one of the text. -/
theorem Moves.place_le {a b : Nat × Nat} (h : Moves program text a b) (ha : a.2 ≤ text.length) :
    a.2 ≤ b.2 ∧ b.2 ≤ text.length := by
  cases h with
  | onward => exact ⟨Nat.le_refl _, ha⟩
  | read _ hc _ => exact ⟨Nat.le_succ _, (List.getElem?_eq_some_iff.mp hc).1⟩

theorem Takes.inside {i j : Nat} (h : Takes program text i j) : i ≤ j ∧ j ≤ text.length := by
  obtain ⟨hi, k, hmoves, -⟩ := h
  have hplace : ∀ b, ReflTransGen (Moves program text) (0, i) b → i ≤ b.2 ∧ b.2 ≤ text.length := by
    intro b hb
    induction hb with
    | refl => exact ⟨Nat.le_refl i, hi⟩
    | tail _ hmove ih =>
      have h := hmove.place_le ih.2
      exact ⟨Nat.le_trans ih.1 h.1, h.2⟩
  exact hplace _ hmoves

/-! ### The search -/

section
variable {before after : Option Char} {S : Nat → Prop}

/-- Steps that are kept by going on without reading keep all that is followed from them. -/
theorem Frontier.follow_sound
    (hS : ∀ k s, program[k]? = some s → S k → ∀ k' ∈ s.onward before after k, S k')
    (rounds : Nat) {pending : List Nat} {f : Frontier} (hpending : ∀ k ∈ pending, S k)
    (hf : ∀ k ∈ f.resting, S k) :
    ∀ k ∈ (f.follow program before after rounds pending).resting, S k := by
  induction rounds generalizing pending f with
  | zero => exact hf
  | succ rounds ih =>
    cases pending with
    | nil => exact hf
    | cons k pending =>
      obtain ⟨hk, hpending⟩ := List.forall_mem_cons.mp hpending
      rw [follow]
      split
      · next s hs _ =>
        refine ih (fun k' hk' => ?_) fun k' hk' => ?_
        · obtain hk' | hk' := List.mem_append.mp hk'
          · exact hS k s hs hk k' hk'
          · exact hpending k' hk'
        · rw [enter] at hk'
          split at hk'
          · obtain rfl | hk' := List.mem_cons.mp hk'
            · exact hk
            · exact hf k' hk'
          · exact hf k' hk'
      · exact ih hpending hf

theorem reached_sound
    (hS : ∀ k s, program[k]? = some s → S k → ∀ k' ∈ s.onward before after k, S k')
    {threads : List Nat} (hthreads : ∀ k ∈ threads, S k) :
    ∀ k ∈ reached program before after threads, S k := by
  intro k hk
  rw [reached, List.mem_reverse] at hk
  exact Frontier.follow_sound hS _ hthreads (by simp) k hk

end

/-- The steps at which threads are that started at `start` and have come to the place `i`. -/
def Reachable (program : Array Step) (text : List Char) (start i k : Nat) : Prop :=
  ReflTransGen (Moves program text) (0, start) (k, i)

section
variable {start i : Nat} {threads : List Nat}

theorem reached_reachable (hthreads : ∀ k ∈ threads, Reachable program text start i k) :
    ∀ k ∈ reached program (charBefore text i) text[i]? threads,
      Reachable program text start i k :=
  reached_sound (fun _ _ hs hk _ hk' => hk.tail (.onward hs hk')) hthreads

theorem advance_reachable {c : Char} (hc : text[i]? = some c)
    (hthreads : ∀ k ∈ threads, Reachable program text start i k) :
    ∀ k ∈ advance program c threads, Reachable program text start (i + 1) k := by
  intro k' hk'
  obtain ⟨k, hk, hstep⟩ := List.mem_filterMap.mp hk'
  split at hstep
  · next s hs =>
    split at hstep
    · next hin =>
      obtain rfl := Option.some.inj hstep
      exact (hthreads k hk).tail (.read hs hc hin)
    · cases hstep
  · cases hstep

theorem takes_of_accepts (hstart : start ≤ text.length)
    (hthreads : ∀ k ∈ threads, Reachable program text start i k)
    (h : threads.any (accepts program) = true) : Takes program text start i := by
  obtain ⟨k, hk, haccepts⟩ := List.any_eq_true.mp h
  refine ⟨hstart, k, hthreads k hk, ?_⟩
  unfold accepts at haccepts
  split at haccepts
  · assumption
  · cases haccepts

/-- A run keeps to what its threads can do, and so does the match that it has found. -/
theorem run_sound {count : Nat} {best : Option Nat} {n : Nat} (hstart : start ≤ text.length)
    (hthreads : ∀ k ∈ threads, Reachable program text start (start + count) k)
    (hbest : ∀ b, best = some b → Takes program text start (start + b))
    (h : run program (charBefore text (start + count)) threads count best
      (text.drop (start + count)) = some n) : Takes program text start (start + n) := by
  generalize hrest : text.drop (start + count) = rest at h
  induction rest generalizing threads count best with
  | nil =>
    have hend : text[start + count]? = ([] : List Char).head? := by rw [← hrest, List.head?_drop]
    rw [run, ← hend] at h
    split at h
    · next haccepts =>
      obtain rfl := Option.some.inj h
      exact takes_of_accepts hstart (reached_reachable hthreads) haccepts
    · exact hbest n h
  | cons c rest ih =>
    obtain ⟨hc, hrest⟩ := drop_eq_cons hrest
    have hreached := reached_reachable hthreads
    have hhead : (c :: rest).head? = text[start + count]? := hc.symm
    rw [run, hhead] at h
    have hbest' : ∀ b, (if (reached program (charBefore text (start + count))
        text[start + count]? threads).any (accepts program) then some count else best) = some b →
        Takes program text start (start + b) := by
      intro b hb
      split at hb
      · next haccepts =>
        obtain rfl := Option.some.inj hb
        exact takes_of_accepts hstart hreached haccepts
      · exact hbest b hb
    split at h
    · exact hbest' n h
    · rw [← charBefore_succ hc, Nat.add_assoc] at h
      rw [Nat.add_assoc] at hrest
      refine ih ?_ hbest' hrest h
      exact advance_reachable hc fun k hk => hreached k (List.takeWhile_subset _ hk)

/-- The run of a thread that starts at a place of the text. -/
theorem takes_of_run {n : Nat} (hstart : start ≤ text.length)
    (h : run program (charBefore text start) [0] 0 none (text.drop start) = some n) :
    Takes program text start (start + n) := by
  refine @run_sound program text start [0] 0 none n hstart (fun k hk => ?_) (by simp) h
  rw [List.mem_singleton.mp hk]
  exact .refl

end

/-- A search does not go back, and a match that it finds is one that a thread can take. -/
theorem findFrom_sound {start : Nat} {m : Span} (hstart : start ≤ text.length)
    (h : findFrom program (charBefore text start) start (text.drop start) = some m) :
    start ≤ m.start ∧ Takes program text m.start (m.start + m.length) := by
  generalize hrest : text.drop start = rest at h
  induction rest generalizing start with
  | nil =>
    rw [findFrom] at h
    split at h
    · next n hrun =>
      obtain rfl := Option.some.inj h
      exact ⟨Nat.le_refl _, takes_of_run hstart (hrest ▸ hrun)⟩
    · cases h
  | cons c rest ih =>
    obtain ⟨hc, hrest'⟩ := drop_eq_cons hrest
    rw [findFrom] at h
    split at h
    · next n hrun =>
      obtain rfl := Option.some.inj h
      exact ⟨Nat.le_refl _, takes_of_run hstart (hrest ▸ hrun)⟩
    · rw [← charBefore_succ hc] at h
      obtain ⟨hle, htakes⟩ := ih (List.getElem?_eq_some_iff.mp hc).1 hrest' h
      exact ⟨Nat.le_of_succ_le hle, htakes⟩

/-- A match that a search finds is one that a thread can take. -/
theorem find_sound {m : Span} (h : find program text = some m) :
    Takes program text m.start (m.start + m.length) :=
  (findFrom_sound (Nat.zero_le _) h).2

end Descent.Pattern
