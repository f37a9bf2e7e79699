import Descent.Numeral
import Descent.Proofs.Grammar.Undoing

/-!
# Arithmetic

Sums and differences of numbers and of expressions in parentheses. The grammar reads numbers into
words of 64 bits with a sign and adds up from the left as it goes. Where all totals on the way fit
a word, it evaluates what is written, whatever would become of a total that does not. It leaves off
where the expression ends: behind the last digit and the last term, in front of an operator that no
term follows.
-/
namespace Descent

namespace Rounds
variable {κ β : Type} {round : κ → β → κ → Prop} {c d e : κ} {v : β} {vs : List β}

theorem snoc (hs : Rounds round c vs d) (h : round d v e) : Rounds round c (vs ++ [v]) e := by
  induction hs with
  | nil c => exact .cons h (.nil e)
  | cons hfirst _ ih => exact .cons hfirst (ih h)

end Rounds

namespace Arithmetic

inductive Operator where
  | plus
  | minus

def Operator.symbol : Operator → Char
  | plus => '+'
  | minus => '-'

def Operator.apply : Operator → Int → Int → Int
  | plus, m, n => m + n
  | minus, m, n => m - n

mutual

/-- A number with zeros in front of it, or an expression in parentheses. -/
inductive Term where
  | number (zeros value : Nat)
  | group (e : Expr)

/-- Terms with operators between them. What stands to the left of an operator belongs together. -/
inductive Expr where
  | single (t : Term)
  | chain (e : Expr) (op : Operator) (t : Term)

end

mutual

def Term.render : Term → List Char
  | .number zeros n => List.replicate zeros '0' ++ Nat.toDigits 10 n
  | .group e => '(' :: (e.render ++ [')'])

def Expr.render : Expr → List Char
  | .single t => t.render
  | .chain e op t => e.render ++ op.symbol :: t.render

end

mutual

def Term.value : Term → Int
  | .number _ n => n
  | .group e => e.value

def Expr.value : Expr → Int
  | .single t => t.value
  | .chain e op t => op.apply e.value t.value

end

mutual

/-- All numbers and all totals from left to right fit a word, those in parentheses included. -/
def Term.Fits : Term → Prop
  | .number _ n => Numeral.fitsSigned n = true
  | .group e => e.Fits

def Expr.Fits : Expr → Prop
  | .single t => t.Fits
  | .chain e op t => e.Fits ∧ t.Fits ∧ Numeral.fitsSigned (op.apply e.value t.value) = true

end

/-- What can come after an expression without being taken for a part of it. -/
inductive EndsExpression : List Char → Prop where
  | nil : EndsExpression []
  | other {ch : Char} {s : List Char} (hdigit : ch.isDigit = false) (hplus : ch ≠ '+')
    (hminus : ch ≠ '-') : EndsExpression (ch :: s)
  | dangling {ch : Char} {s : List Char} (hop : ch = '+' ∨ ch = '-')
    (hs : ∀ first ∈ s.head?, first.isDigit = false ∧ first ≠ '(') : EndsExpression (ch :: s)

/-- The grammars that refer to one another. -/
inductive Rule where
  | number
  | term
  | expr

def digits : Grammar TextLeaf Rule Int64 (List Char) :=
  .many (.leaf (.inl (.satisfying "digit" Char.isDigit)))

def number : Grammar TextLeaf Rule Int64 Int64 :=
  digits.refine fun ds => (Numeral.check Numeral.signed? ds).map Int64.ofInt

def term : Grammar TextLeaf Rule Int64 Int64 :=
  (Grammar.call .number).orElse (.defer none ((Grammar.call .expr).between ['('] [')']))

def operator : Grammar TextLeaf Rule Int64 Char :=
  .leaf (.inl (.satisfying "operator" fun ch => ch == '+' || ch == '-'))

def operation : Grammar TextLeaf Rule Int64 (Char × Int64) :=
  operator.bind fun op => (Grammar.call .term).map fun v => (op, v)

/-- The word for a total. What `overflow` says of a total that does not fit is left open. -/
def wordOf (overflow : Int → Int64) (total : Int) : Int64 :=
  if Numeral.fitsSigned total then Int64.ofInt total else overflow total

def perform (overflow : Int → Int64) (total : Int64) : Char × Int64 → Int64
  | ('+', v) => wordOf overflow (total.toInt + v.toInt)
  | (_, v) => wordOf overflow (total.toInt - v.toInt)

def expr (overflow : Int → Int64) : Grammar TextLeaf Rule Int64 Int64 :=
  (Grammar.call .term).bind fun first =>
    (Grammar.many operation).map fun operations => operations.foldl (perform overflow) first

def rules (overflow : Int → Int64) : Rules TextLeaf Rule Int64
  | .number => .ok number
  | .term => .ok term
  | .expr => .ok (expr overflow)

section words
variable {overflow : Int → Int64}

theorem toInt_ofInt {n : Int} (h : Numeral.fitsSigned n = true) : (Int64.ofInt n).toInt = n := by
  simp only [Numeral.fitsSigned, Bool.and_eq_true, decide_eq_true_eq] at h
  apply Int64.toInt_ofInt_of_le
  · omega
  · omega

theorem toInt_wordOf {n : Int} (h : Numeral.fitsSigned n = true) :
    (wordOf overflow n).toInt = n := by
  rw [wordOf, if_pos h, toInt_ofInt h]

/-- An operation that does not overflow does what the operator says. -/
theorem toInt_perform {op : Operator} {total v : Int64}
    (h : Numeral.fitsSigned (op.apply total.toInt v.toInt) = true) :
    (perform overflow total (op.symbol, v)).toInt = op.apply total.toInt v.toInt := by
  cases op with
  | plus => exact toInt_wordOf h
  | minus => exact toInt_wordOf h

end words

section numerals
variable {zeros n : Nat} {ds : List Char}

theorem isDigit_of_mem_render {ch : Char} (h : ch ∈ (Term.number zeros n).render) :
    ch.isDigit = true := by
  rw [Term.render, List.mem_append] at h
  rcases h with hzero | hdigit
  · rw [List.eq_of_mem_replicate hzero]
    decide
  · exact Nat.isDigit_of_mem_toDigits (by decide) (by decide) hdigit

theorem render_number_ne_nil : (Term.number zeros n).render ≠ [] := by
  rw [Term.render]
  exact List.append_ne_nil_of_right_ne_nil _ Nat.toDigits_ne_nil

theorem value_replicate_zero (zeros : Nat) : Numeral.value (List.replicate zeros '0') = 0 := by
  induction zeros with
  | zero => rfl
  | succ zeros ih => rw [List.replicate_succ]; exact ih

theorem value_render : Numeral.value (Term.number zeros n).render = n := by
  rw [Term.render, Numeral.value, List.foldl_append]
  change Nat.ofDigitChars 10 (Nat.toDigits 10 n) (Numeral.value _) = n
  rw [value_replicate_zero, Nat.ofDigitChars_ten_toDigits]

/-- Digits alone are a numeral without a sign. -/
theorem signed?_of_digits (hne : ds ≠ []) (hds : ∀ ch ∈ ds, ch.isDigit = true)
    (hfits : Numeral.fitsSigned (Numeral.value ds) = true) :
    Numeral.signed? ds = some (Numeral.value ds : Int) := by
  have hdigits := Numeral.digits?_of_digits hne hds
  unfold Numeral.signed?
  split
  · exact absurd (hds '-' List.mem_cons_self) (by decide)
  · exact absurd (hds '+' List.mem_cons_self) (by decide)
  · simp [hdigits, hfits]

end numerals

section language
variable {overflow : Int → Int64} {c d : TextCursor}

/-- No digit comes next. -/
def NoDigit (c : TextCursor) : Prop :=
  ∀ ch ∈ c.remaining.head?, ch.isDigit = false

theorem noDigit_of_passes {ch : Char} {xs : List Char} (h : Cursor.Passes c (ch :: xs) d)
    (hch : ch.isDigit = false) : NoDigit c := by
  have hhead : c.remaining = ch :: (xs ++ d.remaining) := h.remaining_eq
  rw [NoDigit, hhead]
  rintro _ ⟨⟩
  exact hch

theorem noDigit_of_endsExpression (h : EndsExpression c.remaining) : NoDigit c := by
  intro ch hch
  generalize c.remaining = s at h hch
  cases h with
  | nil => simp at hch
  | other hother => rwa [← Option.mem_some_iff.mp hch]
  | dangling hop =>
    obtain rfl := Option.mem_some_iff.mp hch
    rcases hop with rfl | rfl <;> decide

theorem endsWith_digits_iff (hc : c.OnBoundary) {ds : List Char} :
    (rules overflow).EndsWith TextLeaf.read digits c (.success ds d) ↔
      (∀ ch ∈ ds, ch.isDigit = true) ∧ Cursor.Passes c ds d ∧ NoDigit d :=
  Rules.endsWith_many_character_iff hc

/-- A number is read up to where the digits end. -/
theorem endsWith_number {ds : List Char} (hc : c.OnBoundary) (hne : ds ≠ [])
    (hds : ∀ ch ∈ ds, ch.isDigit = true) (hfits : Numeral.fitsSigned (Numeral.value ds) = true)
    (h : Cursor.Passes c ds d) (hd : NoDigit d) :
    (rules overflow).EndsWith TextLeaf.read (.call .number) c
      (.success (Int64.ofInt (Numeral.value ds)) d) := by
  have hnumber : rules overflow .number = .ok number := rfl
  rw [Rules.endsWith_call_iff hnumber, number, Grammar.refine, Rules.endsWith_bind_success_iff]
  refine ⟨ds, d, (endsWith_digits_iff hc).mpr ⟨hds, h, hd⟩, ?_⟩
  simp only [Numeral.check, List.isEmpty_iff, hne, signed?_of_digits hne hds hfits]
  exact Rules.endsWith_succeed _

/-- Where there is no digit, there is no number. -/
theorem exists_failure_number (hc : c.OnBoundary) (h : NoDigit c) :
    ∃ e, (rules overflow).EndsWith TextLeaf.read (.call .number) c (.failure e) := by
  have hnumber : rules overflow .number = .ok number := rfl
  have hdigits : (rules overflow).EndsWith TextLeaf.read digits c (.success [] c) :=
    (endsWith_digits_iff hc).mpr ⟨by simp, .nil c, h⟩
  simp only [Rules.endsWith_call_iff hnumber]
  exact Rules.exists_failure_bind_of_success hdigits ⟨_, Rules.endsWith_reject _⟩

theorem exists_failure_term (hc : c.OnBoundary)
    (h : ∀ ch ∈ c.remaining.head?, ch.isDigit = false ∧ ch ≠ '(') :
    ∃ e, (rules overflow).EndsWith TextLeaf.read (.call .term) c (.failure e) := by
  have hterm : rules overflow .term = .ok term := rfl
  have hopening : ¬ ['('] <+: c.remaining := by
    rintro ⟨s, hs⟩
    rw [← hs] at h
    exact (h '(' rfl).2 rfl
  simp only [Rules.endsWith_call_iff hterm]
  exact Rules.exists_failure_orElse (exists_failure_number hc fun ch hch => (h ch hch).1)
    (Rules.exists_failure_unopened hc hopening)

/-- No operation begins with what can come after an expression. -/
theorem exists_failure_operation (hc : c.OnBoundary) (h : EndsExpression c.remaining) :
    ∃ e, (rules overflow).EndsWith TextLeaf.read operation c (.failure e) := by
  have hoperator := (rules overflow).undoes_character "operator" fun ch => ch == '+' || ch == '-'
  have hfailure := hoperator.failure_iff TextCursor.walkable hc
  generalize hr : Cursor.remaining c = r at hfailure
  change c.remaining = r at hr
  rw [hr] at h
  cases h with
  | nil =>
    refine Rules.exists_failure_bind (hfailure.mpr fun op _ => ?_)
    simp
  | @other ch s _ hplus hminus =>
    refine Rules.exists_failure_bind (hfailure.mpr fun op hop hprefix => ?_)
    obtain rfl := (List.cons_prefix_cons.mp hprefix).1
    simp [hplus, hminus] at hop
  | @dangling ch s hop hs =>
    -- The operator is read, but no term is.
    have hhead : Cursor.remaining c = [ch] ++ s := hr
    obtain ⟨d, hd, hrest⟩ := TextCursor.walkable.exists_passes hc hhead
    have hread := (hoperator.success_iff c ch d hc).mpr ⟨by simpa using hop, hd⟩
    refine Rules.exists_failure_bind_of_success hread (Rules.exists_failure_bind ?_)
    refine exists_failure_term (hd.preserves hc TextCursor.walkable) fun first hfirst => hs first ?_
    change first ∈ (Cursor.remaining d).head? at hfirst
    rwa [hrest] at hfirst

/-- The grammar `r` reads from `c` to `d` and evaluates that to `n`. -/
def Evaluates (overflow : Int → Int64) (r : Rule) (c d : TextCursor) (n : Int) : Prop :=
  ∃ v, (rules overflow).EndsWith TextLeaf.read (.call r) c (.success v d) ∧ v.toInt = n

/-- The expression `e` has been read from `c` up to `d`, where another operation may follow. -/
def Totals (overflow : Int → Int64) (e : Expr) (c d : TextCursor) : Prop :=
  ∃ first m operations, (rules overflow).EndsWith TextLeaf.read (.call .term) c (.success first m) ∧
    m.OnBoundary ∧ Rounds ((rules overflow).Round TextLeaf.read operation) m operations d ∧
    (operations.foldl (perform overflow) first).toInt = e.value

/-- An operation more makes a longer expression. -/
theorem Totals.chain {e : Expr} {op : Operator} {t : Term} {m b : TextCursor}
    (he : Totals overflow e c m) (hm : m.OnBoundary) (hop : Cursor.Passes m [op.symbol] b)
    (ht : Evaluates overflow .term b d t.value) (hbd : Cursor.Reaches b d)
    (hfits : Numeral.fitsSigned (op.apply e.value t.value) = true) :
    Totals overflow (.chain e op t) c d := by
  have hoperator := (rules overflow).undoes_character "operator" fun ch => ch == '+' || ch == '-'
  have hsymbol : (op.symbol == '+' || op.symbol == '-') = true := by cases op <;> rfl
  obtain ⟨first, k, operations, hfirst, hk, hrounds, htotal⟩ := he
  obtain ⟨v, hterm, hv⟩ := ht
  have hoperation : (rules overflow).EndsWith TextLeaf.read operation m
      (.success (op.symbol, v) d) := by
    rw [operation, Rules.endsWith_bind_success_iff]
    exact ⟨op.symbol, b, (hoperator.success_iff m _ b hm).mpr ⟨hsymbol, hop⟩,
      Rules.endsWith_map_success_iff.mpr ⟨v, hterm, rfl⟩⟩
  have hlater : Cursor.Precedes m d := by
    have hmb := TextCursor.ordered.precedes hm hop (List.cons_ne_nil _ _)
    have hb := hop.preserves hm TextCursor.walkable
    exact ⟨hmb.1.trans hbd, Nat.lt_of_lt_of_le hmb.2 (TextCursor.ordered.position_le hb hbd)⟩
  refine ⟨first, k, operations ++ [(op.symbol, v)], hfirst, hk,
    hrounds.snoc ⟨hoperation, hlater⟩, ?_⟩
  rw [List.foldl_append, List.foldl_cons, List.foldl_nil, Expr.value, ← htotal, ← hv]
  apply toInt_perform
  rwa [htotal, hv]

/-- Where no operation follows, the expression is complete. -/
theorem Totals.evaluates {e : Expr} (h : Totals overflow e c d)
    (hd : EndsExpression d.remaining) : Evaluates overflow .expr c d e.value := by
  have hexpr : rules overflow .expr = .ok (expr overflow) := rfl
  obtain ⟨first, m, operations, hfirst, hm, hrounds, htotal⟩ := h
  have hgood : d.OnBoundary :=
    (Rules.reaches_of_rounds hrounds).preserves TextCursor.walkable.next_mem hm
  have hmany : (rules overflow).EndsWith TextLeaf.read (.many operation) m
      (.success operations d) :=
    Rules.RoundsTo.endsWith TextCursor.ordered hm
      ⟨operations, d, hrounds, Or.inl ⟨exists_failure_operation hgood hd, rfl⟩⟩
  refine ⟨_, ?_, htotal⟩
  rw [Rules.endsWith_call_iff hexpr, expr, Rules.endsWith_bind_success_iff]
  exact ⟨first, m, hfirst, Rules.endsWith_map_success_iff.mpr ⟨operations, hmany, rfl⟩⟩

/-- The expression in parentheses is read as any other; a parenthesis that closes ends it. -/
theorem evaluates_group {e : Expr} {b m : TextCursor} (hc : c.OnBoundary)
    (hb : Cursor.Passes c ['('] b) (h : Totals overflow e b m) (hm : m.OnBoundary)
    (hd : Cursor.Passes m [')'] d) : Evaluates overflow .term c d e.value := by
  have hterm : rules overflow .term = .ok term := rfl
  have hclosing : EndsExpression m.remaining := by
    have hhead : m.remaining = ')' :: d.remaining := hd.remaining_eq
    rw [hhead]
    exact .other (by decide) (by decide) (by decide)
  obtain ⟨v, hv, hvalue⟩ := h.evaluates hclosing
  have hnumber : ∃ e, (rules overflow).EndsWith TextLeaf.read (.call .number) c (.failure e) :=
    exists_failure_number hc (noDigit_of_passes hb (by decide))
  refine ⟨v, ?_, hvalue⟩
  rw [Rules.endsWith_call_iff hterm, term, Rules.endsWith_orElse_success_iff]
  exact Or.inr ⟨hnumber, Rules.endsWith_between hc hb hv hm hd⟩

/-- A number is a term where the digits end. -/
theorem evaluates_number {zeros n : Nat} (hc : c.OnBoundary)
    (ht : (Term.number zeros n).Fits) (h : Cursor.Passes c (Term.number zeros n).render d)
    (hd : NoDigit d) : Evaluates overflow .term c d n := by
  have hterm : rules overflow .term = .ok term := rfl
  rw [Term.Fits] at ht
  have hnumber : (rules overflow).EndsWith TextLeaf.read (.call .number) c
      (.success (Int64.ofInt (Numeral.value (Term.number zeros n).render)) d) :=
    endsWith_number hc render_number_ne_nil (fun ch hch => isDigit_of_mem_render hch)
      (by rwa [value_render]) h hd
  rw [value_render] at hnumber
  refine ⟨Int64.ofInt n, ?_, toInt_ofInt ht⟩
  rw [Rules.endsWith_call_iff hterm, term, Rules.endsWith_orElse_success_iff]
  exact Or.inl hnumber

mutual

/-- A term is evaluated wherever it is written. -/
theorem Term.evaluates (t : Term) (ht : t.Fits) {c d : TextCursor} (hc : c.OnBoundary)
    (h : Cursor.Passes c t.render d) (hd : NoDigit d) : Evaluates overflow .term c d t.value := by
  cases t with
  | number zeros n =>
    rw [Term.value]
    exact evaluates_number hc ht h hd
  | group e =>
    rw [Term.Fits] at ht
    rw [Term.render, TextCursor.walkable.passes_cons_iff hc] at h
    obtain ⟨b, hb, h⟩ := h
    have hgood := hb.preserves hc TextCursor.walkable
    obtain ⟨m, hm, hd⟩ := (TextCursor.walkable.passes_append_iff hgood).mp h
    have hclosing : NoDigit m := noDigit_of_passes hd (by decide)
    rw [Term.value]
    exact evaluates_group hc hb (Expr.totals e ht hgood hm hclosing)
      (hm.preserves hgood TextCursor.walkable) hd

/-- An expression is totalled wherever it is written, as its shorter parts on the left are. -/
theorem Expr.totals (e : Expr) (he : e.Fits) {c d : TextCursor} (hc : c.OnBoundary)
    (h : Cursor.Passes c e.render d) (hd : NoDigit d) : Totals overflow e c d := by
  cases e with
  | single t =>
    rw [Expr.Fits] at he
    rw [Expr.render] at h
    obtain ⟨v, hv, hvalue⟩ := Term.evaluates t he hc h hd
    exact ⟨v, d, [], hv, h.preserves hc TextCursor.walkable, .nil d, hvalue⟩
  | chain e op t =>
    rw [Expr.Fits] at he
    obtain ⟨he, ht, hfits⟩ := he
    rw [Expr.render, TextCursor.walkable.passes_append_iff hc] at h
    obtain ⟨m, hm, h⟩ := h
    have hgood := hm.preserves hc TextCursor.walkable
    obtain ⟨b, hop, hbd⟩ := (TextCursor.walkable.passes_cons_iff hgood).mp h
    have hsymbol : NoDigit m := noDigit_of_passes hop (by cases op <;> decide)
    have htotals := Expr.totals e he hc hm hsymbol
    have hterm := Term.evaluates t ht (hop.preserves hgood TextCursor.walkable) hbd hd
    exact htotals.chain hgood hop hterm hbd.reaches hfits

end

end language

/-- The grammar evaluates what is written: at any place of a text where an expression stands whose
totals fit a word, and behind it nothing that belongs to it, the grammar succeeds with the value of
the expression and leaves off behind it. -/
theorem expr_evaluates (overflow : Int → Int64) (e : Expr) (he : e.Fits) {s : List Char}
    (hs : EndsExpression s) {c : TextCursor} (hc : c.OnBoundary)
    (hr : c.remaining = e.render ++ s) :
    ∃ v d, (rules overflow).EndsWith TextLeaf.read (.call .expr) c (.success v d) ∧
      v.toInt = e.value ∧ d.remaining = s := by
  obtain ⟨d, hd, hrest⟩ := TextCursor.walkable.exists_passes hc hr
  change d.remaining = s at hrest
  rw [← hrest] at hs
  obtain ⟨v, hv, hvalue⟩ := (e.totals he hc hd (noDigit_of_endsExpression hs)).evaluates hs
  exact ⟨v, d, hv, hvalue, hrest⟩

theorem expr_evaluates_in_text :
    let overflow : Int → Int64 := fun _ => 0
    let c : TextCursor := ⟨⟨0, 'é' :: "007-(1-(2+3))+x".toList⟩, 2⟩
    ∃ v d, (rules overflow).EndsWith TextLeaf.read (.call .expr) c (.success v d) ∧
      v.toInt = 11 ∧ d.remaining = ['+', 'x'] := by
  intro overflow c
  let inner : Expr := .chain (.single (.number 0 2)) .plus (.number 0 3)
  let outer : Expr := .chain (.single (.number 0 1)) .minus (.group inner)
  let e : Expr := .chain (.single (.number 2 7)) .minus (.group outer)
  have hinner : inner.Fits := ⟨rfl, rfl, rfl⟩
  have houter : outer.Fits := ⟨rfl, hinner, rfl⟩
  have he : e.Fits := ⟨rfl, houter, rfl⟩
  have hs : EndsExpression ['+', 'x'] := .dangling (Or.inl rfl) (by rintro _ ⟨⟩; decide)
  exact expr_evaluates overflow e he hs ⟨['é'], rfl, rfl⟩ rfl

end Arithmetic
end Descent
