import Mathlib.Data.List.Infix
import Descent.Pattern.Reader

/-!
# A closing parenthesis after a text

An anchor puts a closing parenthesis after the text of a pattern. Here the readers of the parts
of a pattern are followed on a text with the parenthesis and on the text alone. What can be read of
the text alone is read the same before the parenthesis, since none of these readers looks further
ahead than to where it stops. At the end of the text the one has nothing left to read, and the other
the parenthesis, unless a comment hides it.

Readers that loop are given bounds on their rounds, which differ between the two texts; the
lemmas about them hold for all bounds that exceed the lengths of the texts.
-/
namespace Descent.Pattern

/-- Where two readers stand in a text: `cs` is left to the first, and `cs'` to the second, for
which a closing parenthesis follows the text. It is still ahead, unless a comment hides it. The
text that was left when the two started is `whole`. -/
inductive Behind (whole : List Char) : List Char → List Char → Prop where
  | ahead {cs : List Char} (h : cs <:+ whole) : Behind whole cs (cs ++ [')'])
  | hidden : Behind whole [] []

/-- The results of two readers that stood at the same place of a text, before a closing
parenthesis in the case of the second. What the first one reads, the second one reads too. -/
inductive Parallel {β : Type} (whole : List Char) :
    Option (β × List Char) → Option (β × List Char) → Prop where
  | unread {x' : Option (β × List Char)} : Parallel whole none x'
  | both (b : β) {cs cs' : List Char} (h : Behind whole cs cs') :
    Parallel whole (some (b, cs)) (some (b, cs'))

namespace Behind
variable {whole text cs cs' : List Char}

theorem of_suffix (h : Behind whole cs cs') (hs : whole <:+ text) : Behind text cs cs' := by
  cases h with
  | ahead h => exact .ahead (h.trans hs)
  | hidden => exact .hidden

theorem suffix (h : Behind whole cs cs') : cs <:+ whole := by
  cases h with
  | ahead h => exact h
  | hidden => exact List.nil_suffix

end Behind

namespace Parallel
variable {β γ : Type} {whole text : List Char} {x x' : Option (β × List Char)}

theorem of_suffix (h : Parallel whole x x') (hs : whole <:+ text) : Parallel text x x' := by
  cases h with
  | unread => exact .unread
  | both b h => exact .both b (h.of_suffix hs)

/-- What goes on from results that are parallel. Where the parenthesis is behind both, they go
on from the end of the text. -/
theorem bind {f f' : β × List Char → Option (γ × List Char)} (h : Parallel whole x x')
    (hf : ∀ b cs, cs <:+ whole → Parallel cs (f (b, cs)) (f' (b, cs ++ [')'])))
    (hend : ∀ b, f (b, []) = f' (b, [])) : Parallel whole (x.bind f) (x'.bind f') := by
  cases h with
  | unread => exact .unread
  | both b h =>
    cases h with
    | ahead h => exact (hf b _ h).of_suffix h
    | hidden =>
      -- from the end of the text nothing is left to either
      have h := hf b [] List.nil_suffix
      rw [Option.bind_some, Option.bind_some, ← hend b]
      generalize f (b, []) = y, f' (b, [] ++ [')']) = y' at h
      cases h with
      | unread => exact .unread
      | both c h =>
        rw [List.suffix_nil.mp h.suffix]
        exact .both c .hidden

theorem map (g : β → γ) (h : Parallel whole x x') :
    Parallel whole (x.map fun (b, rest) => (g b, rest)) (x'.map fun (b, rest) => (g b, rest)) := by
  cases h with
  | unread => exact .unread
  | both b h => exact .both (g b) h

/-- A result that does not depend on what is left. -/
theorem of_option (y : Option β) (g : β → γ) {cs cs' : List Char} (h : Behind whole cs cs') :
    Parallel whole (y.map fun b => (g b, cs)) (y.map fun b => (g b, cs')) := by
  cases y with
  | none => exact .unread
  | some b => exact .both (g b) h

end Parallel

/-- What a text starts with, it starts with before the parenthesis. -/
theorem not_starts_before_paren {w cs : List Char} (hw : ')' ∉ w) (h : ∀ tail, cs ≠ w ++ tail)
    (tail : List Char) : cs ++ [')'] ≠ w ++ tail := by
  intro he
  obtain ⟨as, rfl, has⟩ | ⟨bs, hbs, -⟩ := List.append_eq_append_iff.mp he
  · cases as with
    | nil => exact h [] (by simp)
    | cons a as => exact hw (by rw [(List.cons.inj has).1]; simp)
  · exact h bs hbs

@[simp] theorem isBlank_paren : isBlank ')' = false := by decide

/-- Blanks before the parenthesis are dropped as they are without it. The end of a text that lies
in a comment hides the parenthesis. -/
theorem skipBlanks_behind (inComment : Bool) (cs : List Char) :
    Behind cs (skipBlanks inComment cs) (skipBlanks inComment (cs ++ [')'])) := by
  induction cs generalizing inComment with
  | nil =>
    cases inComment with
    | true => exact .hidden
    | false => exact .ahead List.nil_suffix
  | cons c cs ih =>
    have hc : cs <:+ c :: cs := List.suffix_cons c cs
    cases inComment with
    | true => exact (ih (c != '\n')).of_suffix hc
    | false =>
      simp only [List.cons_append, skipBlanks, Bool.false_eq_true, if_false]
      split
      · exact (ih false).of_suffix hc
      · split
        · exact (ih true).of_suffix hc
        · exact .ahead (List.suffix_refl _)

namespace Flags

theorem skip_behind (fl : Flags) (cs : List Char) :
    Behind cs (fl.skip cs) (fl.skip (cs ++ [')'])) := by
  unfold skip
  split
  · exact skipBlanks_behind false cs
  · exact .ahead (List.suffix_refl cs)

@[simp] theorem skip_nil (fl : Flags) : fl.skip [] = [] := by
  simp [skip, skipBlanks]

theorem skip_suffix (fl : Flags) (cs : List Char) : fl.skip cs <:+ cs :=
  (fl.skip_behind cs).suffix

end Flags

/-- What two readers do after blanks. -/
@[elab_as_elim]
theorem Behind.afterBlanks {motive : List Char → List Char → Prop} (fl : Flags) (cs : List Char)
    (ahead : ∀ ds, ds <:+ cs → motive ds (ds ++ [')']))
    (hidden : motive [] []) :
    motive (fl.skip cs) (fl.skip (cs ++ [')'])) := by
  have h := fl.skip_behind cs
  generalize fl.skip cs = ds, fl.skip (cs ++ [')']) = ds' at h
  cases h with
  | ahead h => exact ahead ds h
  | hidden => exact hidden

/-! ### Numbers and names -/

theorem dropBlanks_append (cs : List Char) :
    (cs ++ [')']).dropWhile isBlank = cs.dropWhile isBlank ++ [')'] := by
  rw [List.dropWhile_append]
  split
  · next h => simp [List.isEmpty_iff.mp h]
  · rfl

@[simp] theorem decimalDigits_nil (fl : Flags) (n : Nat) : decimalDigits fl n [] = ([], []) := by
  cases n <;> rfl

theorem decimalDigits_parallel (fl : Flags) {n n' : Nat} {cs : List Char} (hn : cs.length ≤ n)
    (hn' : cs.length < n') :
    Parallel cs (some (decimalDigits fl n cs)) (some (decimalDigits fl n' (cs ++ [')']))) := by
  induction n generalizing n' cs with
  | zero =>
    obtain rfl : cs = [] := List.length_eq_zero_iff.mp (by omega)
    obtain ⟨n', rfl⟩ : ∃ k, n' = k + 1 := ⟨n' - 1, by omega⟩
    exact .both [] (.ahead List.nil_suffix)
  | succ n ih =>
    obtain ⟨n', rfl⟩ : ∃ k, n' = k + 1 := ⟨n' - 1, by omega⟩
    cases cs with
    | nil => exact .both [] (.ahead List.nil_suffix)
    | cons c cs =>
      simp only [List.length_cons] at hn hn'
      simp only [List.cons_append, decimalDigits]
      split
      · refine Parallel.of_suffix ?_ (List.suffix_cons c cs)
        refine Behind.afterBlanks fl cs (fun ds hds => ?_) ?_
        · have hlen := hds.length_le
          exact ((ih (by omega) (by omega)).map (c :: ·)).of_suffix hds
        · simp only [decimalDigits_nil]
          exact .both [c] .hidden
      · exact .both [] (.ahead (List.suffix_refl _))

theorem count_eq (fl : Flags) (cs : List Char) :
    count fl cs = (some (decimalDigits fl cs.length (cs.dropWhile isBlank))).bind fun x =>
      if x.1.isEmpty || maxCount < Numeral.value x.1 then none
      else some (Numeral.value x.1, x.2.dropWhile isBlank) := rfl

theorem count_parallel (fl : Flags) (cs : List Char) :
    Parallel cs (count fl cs) (count fl (cs ++ [')'])) := by
  have hdrop : cs.dropWhile isBlank <:+ cs := List.dropWhile_suffix _
  have hlen := hdrop.length_le
  rw [count_eq, count_eq, dropBlanks_append]
  refine ((decimalDigits_parallel fl hlen (by simp; omega)).of_suffix hdrop).bind
    (fun digits rest _ => ?_) fun _ => rfl
  dsimp only
  split
  · exact .unread
  · rw [dropBlanks_append]
    exact .both _ (.ahead (List.dropWhile_suffix _))

/-- The first character that fails a test, which the parenthesis passes, is the same before the
parenthesis, and so is what stands before it. -/
theorem takeWhile_append_paren {p : Char → Bool} (hp : p ')' = true) (cs : List Char) :
    (cs.dropWhile p = [] ∧ (cs ++ [')']).dropWhile p = []) ∨
      ∃ c rest, rest <:+ cs ∧ cs.dropWhile p = c :: rest ∧
        (cs ++ [')']).dropWhile p = c :: (rest ++ [')']) ∧
        (cs ++ [')']).takeWhile p = cs.takeWhile p := by
  have hparts : cs.takeWhile p ++ cs.dropWhile p = cs := List.takeWhile_append_dropWhile
  have hsuffix : cs.dropWhile p <:+ cs := List.dropWhile_suffix p
  cases hrest : cs.dropWhile p with
  | nil => exact .inl ⟨rfl, by simp [List.dropWhile_append, hrest, hp]⟩
  | cons c rest =>
    rw [hrest] at hparts hsuffix
    have hlen := congrArg List.length hparts
    rw [List.length_append, List.length_cons] at hlen
    refine .inr ⟨c, rest, (List.suffix_cons c rest).trans hsuffix, rfl, ?_, ?_⟩
    · simp [List.dropWhile_append, hrest]
    · rw [List.takeWhile_append, if_neg (by omega)]

theorem groupName_parallel (cs : List Char) :
    Parallel cs (groupName cs) (groupName (cs ++ [')'])) := by
  obtain ⟨h, -⟩ | ⟨c, rest, hsuffix, h, h', hname⟩ :=
    takeWhile_append_paren (p := (· != '>')) (by decide) cs
  · have hnone : groupName cs = none := by
      simp only [groupName, h]
      split
      · next h => simp at h
      · rfl
    rw [hnone]
    exact .unread
  · simp only [groupName, h, h', hname]
    cases cs.takeWhile (· != '>') with
    | nil => exact .unread
    | cons first more =>
      dsimp only
      split
      · exact .both _ (.ahead hsuffix)
      · exact .unread

/-! ### Escapes -/

theorem hexDigits_parallel (fl : Flags) (n value : Nat) (cs : List Char) :
    Parallel cs (hexDigits fl n value cs) (hexDigits fl n value (cs ++ [')'])) := by
  induction n generalizing value cs with
  | zero => exact .both value (.ahead (List.suffix_refl cs))
  | succ n ih =>
    simp only [hexDigits]
    refine Behind.afterBlanks fl cs (fun ds hds => ?_) .unread
    cases ds with
    | nil => exact .unread
    | cons c ds =>
      simp only [List.cons_append]
      cases hexValue? c with
      | none => exact .unread
      | some d => exact (ih _ ds).of_suffix ((List.suffix_cons c ds).trans hds)

theorem hexBraced_parallel (fl : Flags) {n n' : Nat} (value : Option Nat) {cs : List Char}
    (hn : cs.length < n) (hn' : cs.length + 1 < n') :
    Parallel cs (hexBraced fl n value cs) (hexBraced fl n' value (cs ++ [')'])) := by
  induction n generalizing n' value cs with
  | zero => omega
  | succ n ih =>
    obtain ⟨n', rfl⟩ : ∃ k, n' = k + 1 := ⟨n' - 1, by omega⟩
    simp only [hexBraced]
    refine Behind.afterBlanks fl cs (fun ds hds => ?_) .unread
    have hlen := hds.length_le
    cases ds with
    | nil => exact .unread
    | cons c ds =>
      have hds' : ds <:+ cs := (List.suffix_cons c ds).trans hds
      simp only [List.length_cons] at hlen
      rcases eq_or_ne c '\x7d' with rfl | hc
      · exact (Parallel.of_option value id (.ahead hds'))
      · simp only [List.cons_append]
        cases hexValue? c with
        | none => exact .unread
        | some d => exact (ih _ (by omega) (by omega)).of_suffix hds'

/-- The digits of a code point, and the character that they give. -/
theorem codePointDigits_parallel (fl : Flags) (n : Nat) (cs : List Char) :
    Parallel cs
      ((hexDigits fl n 0 cs).bind fun x => (scalar? x.1).bind fun c =>
        if n = 2 ∧ !fl.admits c then none else some (c, x.2))
      ((hexDigits fl n 0 (cs ++ [')'])).bind fun x => (scalar? x.1).bind fun c =>
        if n = 2 ∧ !fl.admits c then none else some (c, x.2)) := by
  refine (hexDigits_parallel fl n 0 cs).bind (fun value rest _ => ?_) fun _ => rfl
  dsimp only
  cases scalar? value with
  | none => exact .unread
  | some c =>
    simp only [Option.bind_some]
    split
    · exact .unread
    · exact .both c (.ahead (List.suffix_refl rest))

theorem codePoint_parallel (fl : Flags) (n : Nat) (cs : List Char) :
    Parallel cs (codePoint fl (n + 1) cs) (codePoint fl (n + 1) (cs ++ [')'])) := by
  unfold codePoint
  refine Behind.afterBlanks fl cs (fun ds hds => Parallel.of_suffix ?_ hds) ?_
  · cases ds with
    | nil => exact codePointDigits_parallel fl (n + 1) []
    | cons c ds =>
      rcases eq_or_ne c '\x7b' with rfl | hc
      · refine Parallel.of_suffix ?_ (List.suffix_cons _ ds)
        refine (hexBraced_parallel fl none (by omega) (by simp)).bind (fun value rest _ => ?_)
          fun _ => rfl
        dsimp only
        cases scalar? value with
        | none => exact .unread
        | some c => exact .both c (.ahead (List.suffix_refl rest))
      · rw [List.cons_append]
        split
        · next h => exact absurd (List.cons.inj h).1 hc
        · split
          · next h => exact absurd (List.cons.inj h).1 hc
          · exact codePointDigits_parallel fl (n + 1) (c :: ds)
  · simp only [hexDigits, Flags.skip_nil]
    exact .unread

theorem boundaryName_nil (fl : Flags) (n : Nat) : boundaryName fl n [] = none := by
  cases n <;> rfl

theorem boundaryName_parallel (fl : Flags) {n n' : Nat} {cs : List Char}
    (hn : cs.length < n) (hn' : cs.length + 1 < n') :
    Parallel cs (boundaryName fl n cs) (boundaryName fl n' (cs ++ [')'])) := by
  induction n generalizing n' cs with
  | zero => omega
  | succ n ih =>
    obtain ⟨n', rfl⟩ : ∃ k, n' = k + 1 := ⟨n' - 1, by omega⟩
    cases cs with
    | nil => exact .unread
    | cons c cs =>
      have hcs : cs <:+ c :: cs := List.suffix_cons c cs
      simp only [List.length_cons] at hn hn'
      rcases eq_or_ne c '\x7d' with rfl | hc
      · exact .both [] (.ahead hcs)
      · simp only [List.cons_append, boundaryName]
        split
        · refine Parallel.of_suffix ?_ hcs
          refine Behind.afterBlanks fl cs (fun ds hds => ?_) ?_
          · have hlen := hds.length_le
            refine Parallel.of_suffix ?_ hds
            have hname := @ih n' ds (by omega) (by omega)
            exact hname.bind
              (fun name rest _ => .both (c :: name) (.ahead (List.suffix_refl rest))) fun _ => rfl
          · simp only [boundaryName_nil]
            exact .unread
        · exact .unread

theorem boundary_of_ne (fl : Flags) {c : Char} (cs : List Char) (hc : c ≠ '\x7b') :
    boundary fl (c :: cs) = some (.boundary, c :: cs) := by
  unfold boundary
  split
  · next h => exact absurd (List.cons.inj h).1 hc
  · rfl

theorem boundary_parallel (fl : Flags) (cs : List Char) :
    Parallel cs (boundary fl cs) (boundary fl (cs ++ [')'])) := by
  cases cs with
  | nil => exact .both _ (.ahead List.nil_suffix)
  | cons c cs =>
    rcases eq_or_ne c '\x7b' with rfl | hc
    · have hcs : cs <:+ '\x7b' :: cs := List.suffix_cons _ cs
      simp only [List.cons_append, boundary]
      refine Behind.afterBlanks fl cs (fun ds hds => ?_) .unread
      cases ds with
      | nil => exact .unread
      | cons c ds =>
        simp only [List.cons_append]
        split
        · have hname : Parallel (c :: ds) (boundaryName fl (ds.length + 2) (c :: ds))
              (boundaryName fl ((ds ++ [')']).length + 2) (c :: ds ++ [')'])) :=
            boundaryName_parallel fl (by simp) (by simp)
          refine (hname.bind (fun name rest _ => ?_) fun _ => rfl).of_suffix (hds.trans hcs)
          dsimp only
          split
          all_goals first | exact .unread | exact .both _ (.ahead (List.suffix_refl rest))
        · exact .both _ (.ahead (List.suffix_refl _))
    · rw [List.cons_append, boundary_of_ne fl cs hc, boundary_of_ne fl (cs ++ [')']) hc]
      exact .both _ (.ahead (List.suffix_refl _))

theorem bracedName_parallel (fl : Flags) {n n' : Nat} {cs : List Char} (hn : cs.length < n)
    (hn' : cs.length + 1 < n') :
    Parallel cs (bracedName fl n cs) (bracedName fl n' (cs ++ [')'])) := by
  induction n generalizing n' cs with
  | zero => omega
  | succ n ih =>
    obtain ⟨n', rfl⟩ : ∃ k, n' = k + 1 := ⟨n' - 1, by omega⟩
    simp only [bracedName]
    refine Behind.afterBlanks fl cs (fun ds hds => Parallel.of_suffix ?_ hds) .unread
    have hlen := hds.length_le
    cases ds with
    | nil => exact .unread
    | cons c ds =>
      refine Parallel.of_suffix ?_ (List.suffix_cons c ds)
      simp only [List.length_cons] at hlen
      rcases eq_or_ne c '\x7d' with rfl | hc
      · exact .both [] (.ahead (List.suffix_refl ds))
      · simp only [List.cons_append]
        have hname := @ih n' ds (by omega) (by omega)
        exact hname.bind
          (fun name rest _ => .both (c :: name) (.ahead (List.suffix_refl rest))) fun _ => rfl

theorem propertyQuery_parallel (fl : Flags) (cs : List Char) :
    Parallel cs (propertyQuery fl cs) (propertyQuery fl (cs ++ [')'])) := by
  simp only [propertyQuery]
  refine Behind.afterBlanks fl cs (fun ds hds => Parallel.of_suffix ?_ hds) .unread
  cases ds with
  | nil => exact .unread
  | cons c ds =>
    refine Parallel.of_suffix ?_ (List.suffix_cons c ds)
    rcases eq_or_ne c '\\' with rfl | hc
    · exact .unread
    · rcases eq_or_ne c '\x7b' with rfl | hc'
      · exact (bracedName_parallel fl (by omega) (by simp)).map PropertyQuery.ofName
      · simp only [List.cons_append]
        exact .both _ (fl.skip_behind ds)

theorem property_parallel (fl : Flags) (negated : Bool) (cs : List Char) :
    Parallel cs (property fl negated cs) (property fl negated (cs ++ [')'])) := by
  unfold property
  split
  · exact .unread
  · refine (propertyQuery_parallel fl cs).bind (fun q rest _ => ?_) fun _ => rfl
    dsimp only
    cases q.query.members? with
    | none => exact .unread
    | some s =>
      cases hs : fl.negateFolded (negated != q.negated) s with
      | none => simp [hs, Parallel.unread]
      | some t => simpa [hs] using Parallel.both t (.ahead (List.suffix_refl rest))

theorem escape_parallel (fl : Flags) (cs : List Char) :
    Parallel cs (escape fl cs) (escape fl (cs ++ [')'])) := by
  cases cs with
  | nil => exact .unread
  | cons c cs =>
    have hcs : cs <:+ c :: cs := List.suffix_cons c cs
    simp only [List.cons_append, escape]
    split
    case h_1 | h_2 | h_3 =>
      exact ((codePoint_parallel fl _ cs).map Escape.literal).of_suffix hcs
    case h_7 | h_8 | h_9 => exact Parallel.of_option _ Escape.set (.ahead hcs)
    case h_10 | h_11 =>
      exact ((property_parallel fl _ cs).map Escape.set).of_suffix hcs
    case h_20 =>
      exact ((boundary_parallel fl cs).map fun e =>
        Escape.look (.word e fl.alphabet)).of_suffix hcs
    case h_24 =>
      split
      · exact .both _ (.ahead hcs)
      · exact .unread
    all_goals exact .both _ (.ahead hcs)

end Descent.Pattern
