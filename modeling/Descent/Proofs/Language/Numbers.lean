import Mathlib.Data.List.TakeWhile
import Descent.Pattern.Standard
import Descent.Proofs.Grammar.Undoing
import Descent.Proofs.Pattern.LongestRun

/-!
# Numbers, read in two ways

A number can be read with a pattern for its digits, or digit by digit with a repetition. The one
searches the remaining text with a program and skips the bytes of the match, the other steps from
character to character until a digit is missing. Both take the longest run of digits at the cursor,
and so say the same of every text: which number it is, or that it does not fit a word. What the
pattern finds is a matter of the engine, and is asked of it as it is documented.
-/
namespace Descent.Numbers

variable {ρ V : Type}

/-- Digits as a word without a sign. -/
def number (digits : Grammar TextLeaf ρ V (List Char)) : Grammar TextLeaf ρ V UInt64 :=
  digits.refine fun ds => (Numeral.check Numeral.unsigned? ds).map UInt64.ofNat

/-- The digits are what a pattern matches. -/
def matched (p : AnchoredPattern) : Grammar TextLeaf ρ V UInt64 :=
  number (.leaf (.inr (.pattern p)))

/-- The digits are read one by one. -/
def repeated : Grammar TextLeaf ρ V UInt64 :=
  number (.many (.leaf (.inl (.satisfying "digit" Char.isDigit))))

/-- The digits that come first at a cursor, as many as there are. -/
def digitsAt (c : TextCursor) : List Char :=
  c.remaining.takeWhile Char.isDigit

/-- What a grammar for numbers does at `c`, where `d` is the place behind the digits. -/
structure ReadsNumber (rules : Rules TextLeaf ρ V) (p : Grammar TextLeaf ρ V UInt64)
    (c d : TextCursor) : Prop where
  fits : digitsAt c ≠ [] → Numeral.value (digitsAt c) < UInt64.size →
    ∃ n, rules.EndsWith TextLeaf.read p c (.success n d) ∧ n.toNat = Numeral.value (digitsAt c)
  tooLarge : UInt64.size ≤ Numeral.value (digitsAt c) →
    rules.EndsWith TextLeaf.read p c
      (.failure (.rejected "number out of range" (Cursor.location d)))
  noDigits : digitsAt c = [] → ∃ e, rules.EndsWith TextLeaf.read p c (.failure e)

section check
variable {ds : List Char}

/-- Digits alone are a numeral, if its value fits. -/
theorem unsigned?_of_digits (hne : ds ≠ []) (hds : ∀ ch ∈ ds, ch.isDigit = true) :
    Numeral.unsigned? ds =
      if Numeral.value ds < UInt64.size then some (Numeral.value ds) else none := by
  have hdigits := Numeral.digits?_of_digits hne hds
  have hlast : Numeral.value ds ≤ 18446744073709551615 ↔ Numeral.value ds < UInt64.size :=
    Nat.lt_succ_iff.symm
  unfold Numeral.unsigned?
  split
  · exact absurd (hds '+' List.mem_cons_self) (by decide)
  · simp only [hdigits, Option.filter_some, decide_eq_true_eq, hlast]

theorem check_of_fits (hne : ds ≠ []) (hds : ∀ ch ∈ ds, ch.isDigit = true)
    (hfits : Numeral.value ds < UInt64.size) :
    Numeral.check Numeral.unsigned? ds = .ok (Numeral.value ds) := by
  simp only [Numeral.check, List.isEmpty_iff, hne, unsigned?_of_digits hne hds, if_pos hfits,
    if_false]

theorem check_of_tooLarge (hne : ds ≠ []) (hds : ∀ ch ∈ ds, ch.isDigit = true)
    (hlarge : UInt64.size ≤ Numeral.value ds) :
    Numeral.check Numeral.unsigned? ds = .error "number out of range" := by
  simp only [Numeral.check, List.isEmpty_iff, hne, unsigned?_of_digits hne hds,
    if_neg (Nat.not_lt_of_le hlarge), if_false]

end check

section
variable {rules : Rules TextLeaf ρ V} {digits : Grammar TextLeaf ρ V (List Char)}
  {c d : TextCursor}

/-- It is enough that the digits are found. The limit is a matter of the check alone. -/
theorem readsNumber_of_digits
    (hdigits : digitsAt c ≠ [] →
      rules.EndsWith TextLeaf.read digits c (.success (digitsAt c) d))
    (hnone : digitsAt c = [] → ∃ e, rules.EndsWith TextLeaf.read (number digits) c (.failure e)) :
    ReadsNumber rules (number digits) c d where
  fits hne hfits := by
    have hcheck := check_of_fits hne (fun _ hch => List.mem_takeWhile_imp hch) hfits
    refine ⟨UInt64.ofNat (Numeral.value (digitsAt c)), ?_, ?_⟩
    · rw [number, Grammar.refine, Rules.endsWith_bind_success_iff]
      refine ⟨digitsAt c, d, hdigits hne, ?_⟩
      simp only [hcheck]
      exact Rules.endsWith_succeed _
    · exact UInt64.toNat_ofNat_of_lt' hfits
  tooLarge hlarge := by
    have hne : digitsAt c ≠ [] := by
      intro hnil
      rw [hnil] at hlarge
      exact absurd hlarge (by decide)
    have hcheck := check_of_tooLarge hne (fun _ hch => List.mem_takeWhile_imp hch) hlarge
    rw [number, Grammar.refine, Rules.endsWith_bind_iff]
    refine Or.inl ⟨digitsAt c, d, hdigits hne, ?_⟩
    simp only [hcheck]
    exact Rules.endsWith_reject _
  noDigits := hnone

/-- A repetition stops where the digits do. -/
theorem repeated_readsNumber (hc : c.OnBoundary) (hd : Cursor.Passes c (digitsAt c) d) :
    ReadsNumber rules repeated c d := by
  have hrest : d.remaining = c.remaining.dropWhile Char.isDigit := by
    have hsplit := hd.remaining_eq
    exact List.append_cancel_left (hsplit.symm.trans List.takeWhile_append_dropWhile.symm)
  have hstops : ∀ ch ∈ d.remaining.head?, ch.isDigit = false := by
    intro ch hch
    have hhead := List.head?_dropWhile_not Char.isDigit c.remaining
    rw [← hrest, Option.mem_def.mp hch] at hhead
    exact hhead
  have hdigits : rules.EndsWith TextLeaf.read
      (.many (.leaf (.inl (.satisfying "digit" Char.isDigit)))) c (.success (digitsAt c) d) :=
    (Rules.endsWith_many_character_iff hc).mpr
      ⟨fun _ hch => List.mem_takeWhile_imp hch, hd, hstops⟩
  refine readsNumber_of_digits (fun _ => hdigits) fun hnil => ?_
  rw [hnil] at hdigits
  exact Rules.exists_failure_bind_of_success hdigits ⟨_, Rules.endsWith_reject _⟩

end

/-- What is documented of an engine for the pattern `[0-9]+`, anchored: it is accepted, and its search
takes as many digits as come first in a text, if there are any. -/
structure FindsDigits (engine : PatternEngine) (find : List Char → Option Pattern.Span) : Prop where
  accepted : engine.compile (PatternEngine.anchoredText "[0-9]+".toList) = .ok find
  nothing : ∀ text, text.takeWhile Char.isDigit = [] → find text = none
  longest : ∀ text, text.takeWhile Char.isDigit ≠ [] →
    find text = some ⟨0, (text.takeWhile Char.isDigit).length⟩

section
variable {engine : PatternEngine} {find : List Char → Option Pattern.Span}
  {rules : Rules TextLeaf ρ V} {c d : TextCursor}

/-- The search of the pattern ends where the digits do. -/
theorem matched_readsNumber (hfind : FindsDigits engine find) (text : String) (hc : c.OnBoundary)
    (hd : Cursor.Passes c (digitsAt c) d) : ReadsNumber rules (matched ⟨text, find⟩) c d := by
  refine readsNumber_of_digits (fun hne => ?_) fun hnil => ?_
  · have htake : c.remaining.take (digitsAt c).length = digitsAt c :=
      (List.prefix_iff_eq_take.mp hd.isPrefix).symm
    have hspan : find c.remaining = some ⟨0, (digitsAt c).length⟩ := hfind.longest c.remaining hne
    have hread : Stretch.readPattern ⟨text, find⟩ c = .success (digitsAt c) d := by
      simp only [Stretch.readPattern, hspan, Pattern.Span.of, Pattern.Span.upTo, List.drop_zero,
        Nat.zero_add, htake]
      rw [(hc.passes_iff.mp hd).2]
    exact Rules.endsWith_leaf_iff.mpr hread
  · obtain ⟨e, he⟩ : ∃ e, Stretch.readPattern ⟨text, find⟩ c = .failure e := by
      simp only [Stretch.readPattern, hfind.nothing c.remaining hnil]
      split <;> exact ⟨_, rfl⟩
    have hleaf : rules.EndsWith TextLeaf.read (.leaf (.inr (.pattern ⟨text, find⟩))) c
        (.failure e) := Rules.endsWith_leaf_iff.mpr he
    exact Rules.exists_failure_bind ⟨e, hleaf⟩

end

/-- The two ways to read a number agree, where an engine does for digits what is documented. At every
place of a text, both succeed with the value of the digits there and leave off behind them, if there
are digits and the value fits a word; both refuse a value that does not fit, with one error at the
place behind the digits; and both fail where there is no digit. -/
theorem numbers_agree {engine : PatternEngine} {find : List Char → Option Pattern.Span}
    (hfind : FindsDigits engine find) :
    ∃ q, engine.anchored "[0-9]+" = .ok q ∧
      ∀ {ρ V : Type} (rules : Rules TextLeaf ρ V) (c : TextCursor), c.OnBoundary →
        ∃ d, Cursor.Passes c (digitsAt c) d ∧ ReadsNumber rules (matched q) c d ∧
          ReadsNumber rules repeated c d := by
  refine ⟨⟨"[0-9]+", find⟩, ?_, fun rules c hc => ?_⟩
  · rw [PatternEngine.anchored, hfind.accepted]
    rfl
  · have hr : Cursor.remaining c = digitsAt c ++ c.remaining.dropWhile Char.isDigit :=
      List.takeWhile_append_dropWhile.symm
    obtain ⟨d, hd, -⟩ := TextCursor.walkable.exists_passes hc hr
    exact ⟨d, hd, matched_readsNumber hfind _ hc hd, repeated_readsNumber hc hd⟩

/-! ### The standard engine -/

/-- The digits are the characters of the pattern's range. -/
theorem contains_digits : CodePoints.contains [(48, 57)] = Char.isDigit := by
  funext ch
  rw [Bool.eq_iff_iff, CodePoints.contains_iff, Char.isDigit]
  simp only [List.mem_singleton, exists_eq_left, Bool.and_eq_true, decide_eq_true_eq, ge_iff_le,
    UInt32.le_iff_toNat_le]
  rfl

/-- The search for digits with the standard engine. -/
def findDigits : List Char → Option Pattern.Span :=
  Pattern.find (Pattern.anchoredRun [(48, 57)]).program.toArray

theorem findDigits_eq (text : List Char) :
    findDigits text =
      if text.takeWhile Char.isDigit = [] then none
      else some ⟨0, (text.takeWhile Char.isDigit).length⟩ := by
  rw [← contains_digits]
  exact Pattern.find_anchoredRun _ text

theorem standard_findsDigits : FindsDigits PatternEngine.standard findDigits where
  accepted := by
    have hread : Pattern.read? (PatternEngine.anchoredText "[0-9]+".toList) =
        some (Pattern.anchoredRun [(48, 57)]) := by
      decide +kernel
    simp only [PatternEngine.standard, hread]
    rfl
  nothing text hnone := by rw [findDigits_eq, if_pos hnone]
  longest text hsome := by rw [findDigits_eq, if_neg hsome]

/-- Leading zeros are fine, and the limit is exact. -/
theorem numbers_agree_in_text :
    let rules : Rules TextLeaf Empty Unit := fun r => r.elim
    let c : TextCursor := ⟨⟨0, 'é' :: "0042x".toList⟩, 2⟩
    let c' : TextCursor := ⟨⟨1, 'é' :: "18446744073709551616".toList⟩, 2⟩
    ∃ q, PatternEngine.standard.anchored "[0-9]+" = .ok q ∧ c.OnBoundary ∧ c'.OnBoundary ∧
      (∀ p ∈ [matched q, repeated], ∃ n,
        rules.EndsWith TextLeaf.read p c (.success n ⟨c.source, 6⟩) ∧ n.toNat = 42) ∧
      ∀ p ∈ [matched q, repeated], rules.EndsWith TextLeaf.read p c'
        (.failure (.rejected "number out of range" ⟨22, 1, 22⟩)) := by
  intro rules c c'
  have hc : c.OnBoundary := ⟨['é'], rfl, rfl⟩
  have hc' : c'.OnBoundary := ⟨['é'], rfl, rfl⟩
  obtain ⟨q, hq, hagree⟩ := numbers_agree standard_findsDigits
  obtain ⟨d, hd, hmatched, hrepeated⟩ := hagree rules c hc
  obtain ⟨d', hd', hmatched', hrepeated'⟩ := hagree rules c' hc'
  obtain rfl := (hc.passes_iff.mp hd).2
  obtain rfl := (hc'.passes_iff.mp hd').2
  have hne : digitsAt c ≠ [] := List.cons_ne_nil _ _
  have hfits : Numeral.value (digitsAt c) < UInt64.size := by decide
  have hlarge : UInt64.size ≤ Numeral.value (digitsAt c') := by decide
  refine ⟨q, hq, hc, hc', ?_, ?_⟩
  · simpa using ⟨hmatched.fits hne hfits, hrepeated.fits hne hfits⟩
  · simpa using ⟨hmatched'.tooLarge hlarge, hrepeated'.tooLarge hlarge⟩

end Descent.Numbers
