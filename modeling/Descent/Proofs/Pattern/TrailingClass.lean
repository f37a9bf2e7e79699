import Descent.Proofs.Pattern.Trailing

/-!
# Classes before a closing parenthesis

A class must be closed by a bracket of its own, so a parenthesis after the text closes none, and
two readers of a class, one of which has a parenthesis after the text, do the same up to it.
-/
namespace Descent.Pattern

theorem leadingHyphens_of_ne (fl : Flags) (n : Nat) (members : List (Nested CodePoints))
    {c : Char} (cs : List Char) (hc : c ≠ '-') :
    leadingHyphens fl n (members, c :: cs) = (members, c :: cs) := by
  unfold leadingHyphens
  split
  · next h => exact absurd (List.cons.inj (Prod.mk.inj h).2).1 hc
  · rfl

theorem leadingHyphens_nil (fl : Flags) (n : Nat) (members : List (Nested CodePoints)) :
    leadingHyphens fl n (members, []) = (members, []) := by
  cases n <;> rfl

theorem leadingHyphens_parallel (fl : Flags) {n n' : Nat} (members : List (Nested CodePoints))
    {cs : List Char} (hn : cs.length ≤ n) (hn' : cs.length < n') :
    Parallel cs (some (leadingHyphens fl n (members, cs)))
      (some (leadingHyphens fl n' (members, cs ++ [')']))) := by
  induction n generalizing n' members cs with
  | zero =>
    obtain rfl : cs = [] := List.length_eq_zero_iff.mp (by omega)
    rw [List.nil_append, leadingHyphens_of_ne fl n' members [] (by decide)]
    exact .both members (.ahead List.nil_suffix)
  | succ n ih =>
    obtain ⟨n', rfl⟩ : ∃ k, n' = k + 1 := ⟨n' - 1, by omega⟩
    cases cs with
    | nil => exact .both members (.ahead List.nil_suffix)
    | cons c cs =>
      simp only [List.length_cons] at hn hn'
      rcases eq_or_ne c '-' with rfl | hc
      · refine Parallel.of_suffix ?_ (List.suffix_cons '-' cs)
        simp only [List.cons_append, leadingHyphens]
        refine Behind.afterBlanks fl cs (fun ds hds => ?_) ?_
        · have hlen := hds.length_le
          exact (ih _ (by omega) (by omega)).of_suffix hds
        · simp only [leadingHyphens_nil]
          exact .both _ .hidden
      · rw [List.cons_append, leadingHyphens_of_ne fl _ members cs hc,
          leadingHyphens_of_ne fl _ members _ hc]
        exact .both members (.ahead (List.suffix_refl _))

/-- The members with which a class starts, from after its sign of negation on. -/
def openMembers (fl : Flags) (cs : List Char) : List (Nested CodePoints) × List Char :=
  match cs with
  | '-' :: _ => leadingHyphens fl cs.length ([], cs)
  | ']' :: rest => ([.leaf (.singleton ']')], fl.skip rest)
  | _ => ([], cs)

theorem openMembers_parallel (fl : Flags) (cs : List Char) :
    Parallel cs (some (openMembers fl cs)) (some (openMembers fl (cs ++ [')']))) := by
  cases cs with
  | nil => exact .both [] (.ahead List.nil_suffix)
  | cons c cs =>
    rcases eq_or_ne c '-' with rfl | hc
    · exact leadingHyphens_parallel fl [] (by simp) (by simp)
    · rcases eq_or_ne c ']' with rfl | hc'
      · exact .both _ ((fl.skip_behind cs).of_suffix (List.suffix_cons ']' cs))
      · have hother (ds : List Char) : openMembers fl (c :: ds) = ([], c :: ds) := by
          unfold openMembers
          split <;> simp_all
        rw [List.cons_append, hother, hother]
        exact .both [] (.ahead (List.suffix_refl _))

/-- Whether a class is negated, and what follows the sign for it. -/
def signOfNegation (fl : Flags) (cs : List Char) : Bool × List Char :=
  match cs with
  | '^' :: rest => (true, fl.skip rest)
  | _ => (false, cs)

theorem signOfNegation_parallel (fl : Flags) (cs : List Char) :
    Parallel cs (some (signOfNegation fl cs)) (some (signOfNegation fl (cs ++ [')']))) := by
  cases cs with
  | nil => exact .both false (.ahead List.nil_suffix)
  | cons c cs =>
    rcases eq_or_ne c '^' with rfl | hc
    · exact .both true ((fl.skip_behind cs).of_suffix (List.suffix_cons '^' cs))
    · have hother (ds : List Char) : signOfNegation fl (c :: ds) = (false, c :: ds) := by
        unfold signOfNegation
        split <;> simp_all
      rw [List.cons_append, hother, hother]
      exact .both false (.ahead (List.suffix_refl _))

theorem openClass_eq (fl : Flags) (cs : List Char) :
    openClass fl cs = ((signOfNegation fl (fl.skip cs)).1,
      openMembers fl (signOfNegation fl (fl.skip cs)).2) := by
  have hmembers (x : Bool × List Char) :
      (match x.2 with
        | '-' :: _ => (x.1, leadingHyphens fl x.2.length ([], x.2))
        | ']' :: rest => (x.1, [.leaf (.singleton ']')], fl.skip rest)
        | _ => (x.1, [], x.2)) = (x.1, openMembers fl x.2) := by
    unfold openMembers
    split <;> rfl
  exact hmembers (signOfNegation fl (fl.skip cs))

theorem openClass_parallel (fl : Flags) (cs : List Char) :
    ∃ negated members rest rest', openClass fl cs = (negated, members, rest) ∧
      openClass fl (cs ++ [')']) = (negated, members, rest') ∧ Behind cs rest rest' := by
  rw [openClass_eq, openClass_eq]
  refine Behind.afterBlanks fl cs (fun ds hds => ?_) ⟨false, [], [], [], rfl, rfl, .hidden⟩
  have hsign := signOfNegation_parallel fl ds
  generalize signOfNegation fl ds = x, signOfNegation fl (ds ++ [')']) = x' at hsign
  obtain ⟨negated, es⟩ := x
  cases hsign with
  | both _ h =>
    cases h with
    | hidden => exact ⟨negated, [], [], [], rfl, rfl, .hidden⟩
    | ahead hes =>
      have hopen := openMembers_parallel fl es
      dsimp only
      generalize openMembers fl es = y, openMembers fl (es ++ [')']) = y' at hopen
      cases hopen with
      | both members h =>
        exact ⟨negated, members, _, _, rfl, rfl, h.of_suffix (hes.trans hds)⟩

theorem classAtom_parallel (fl : Flags) (c : Char) (cs : List Char) :
    Parallel cs (classAtom fl (c :: cs)) (classAtom fl (c :: (cs ++ [')']))) := by
  rcases eq_or_ne c '\\' with rfl | hc
  · exact escape_parallel fl cs
  · simp only [classAtom]
    exact .both _ (.ahead (List.suffix_refl cs))

theorem continuesRange_iff (fl : Flags) (cs : List Char) :
    continuesRange fl cs = true ↔ afterHyphen fl cs ≠ some ']' ∧ afterHyphen fl cs ≠ some '-' := by
  unfold continuesRange
  split <;> simp_all

/-- The character that decides is the same before the parenthesis, or it is the parenthesis and
was none that ends a range. -/
theorem continuesRange_append (fl : Flags) (cs : List Char) :
    continuesRange fl (cs ++ [')']) = continuesRange fl cs := by
  have hsame (h : afterHyphen fl (cs ++ [')']) = afterHyphen fl cs) :
      continuesRange fl (cs ++ [')']) = continuesRange fl cs := by
    simp only [continuesRange, h]
  have hparen (h' : afterHyphen fl (cs ++ [')']) = some ')')
      (h : ∀ c ∈ afterHyphen fl cs, isBlank c ∨ c = '#') :
      continuesRange fl (cs ++ [')']) = continuesRange fl cs := by
    rw [(continuesRange_iff fl _).mpr (by simp [h']), eq_comm, continuesRange_iff]
    constructor <;> intro he <;> exact absurd (h _ he) (by decide)
  cases hv : fl.verbose with
  | false =>
    cases cs with
    | nil => exact hparen (by simp [afterHyphen, hv]) (by simp [afterHyphen, hv])
    | cons c cs => exact hsame (by simp [afterHyphen, hv])
  | true =>
    simp only [afterHyphen, hv, if_true, dropBlanks_append] at hsame hparen
    -- the very next character is a blank, unless there are no blanks before what follows
    have hhead (c : Char) (hc : cs.head? = some c) :
        isBlank c ∨ cs.dropWhile isBlank = cs := by
      cases cs with
      | nil => simp at hc
      | cons d cs =>
        obtain rfl : d = c := by simpa using hc
        cases hd : isBlank d <;> simp [hd]
    cases hds : cs.dropWhile isBlank with
    | nil =>
      refine hparen (by simp [hds]) fun c hc => ?_
      have hc : cs.head? = some c := by simpa [hds] using hc
      refine .inl ((hhead c hc).resolve_right fun h => ?_)
      simp [h.symm.trans hds] at hc
    | cons c ds =>
      rcases eq_or_ne c '#' with rfl | hc
      · cases hes : ds.dropWhile isBlank with
        | nil =>
          refine hparen (by simp [hds, dropBlanks_append, hes]) fun c hc => ?_
          have hc : cs.head? = some c := by simpa [hds, hes] using hc
          refine (hhead c hc).imp_right fun h => ?_
          simpa [h.symm.trans hds] using hc.symm
        | cons d es => exact hsame (by simp [hds, dropBlanks_append, hes])
      · exact hsame (by simp [hds, hc])

/-- A character or a set that stands alone in a class. -/
def single (fl : Flags) (first : Escape) (rest : List Char) : Option (CodePoints × List Char) :=
  match first with
  | .literal c => (admittedRange fl c c).map (·, rest)
  | .set s => some (s, rest)
  | .look _ => none

/-- The range that ends with what has been read last. -/
def rangeTo (fl : Flags) (first : Escape) (x : Escape × List Char) :
    Option (CodePoints × List Char) :=
  match first, x.1 with
  | .literal a, .literal b => (admittedRange fl a b).map (·, x.2)
  | _, _ => none

theorem classRange_eq (fl : Flags) (cs : List Char) :
    classRange fl cs = (classAtom fl cs).bind fun x =>
      match fl.skip x.2 with
      | '-' :: after =>
        if continuesRange fl after then
          (classAtom fl (fl.skip after)).bind (rangeTo fl x.1)
        else single fl x.1 x.2
      | _ => single fl x.1 x.2 := by
  rfl

theorem single_parallel (fl : Flags) (first : Escape) (rest : List Char) :
    Parallel rest (single fl first rest) (single fl first (rest ++ [')'])) := by
  cases first with
  | literal c => exact Parallel.of_option _ id (.ahead (List.suffix_refl rest))
  | set s => exact .both s (.ahead (List.suffix_refl rest))
  | look l => exact .unread

theorem rangeTo_parallel (fl : Flags) (first last : Escape) (rest : List Char) :
    Parallel rest (rangeTo fl first (last, rest)) (rangeTo fl first (last, rest ++ [')'])) := by
  cases first <;> cases last
  case literal.literal a b => exact Parallel.of_option _ id (.ahead (List.suffix_refl rest))
  all_goals exact .unread

theorem classRange_parallel (fl : Flags) (c : Char) (cs : List Char) :
    Parallel cs (classRange fl (c :: cs)) (classRange fl (c :: (cs ++ [')']))) := by
  rw [classRange_eq, classRange_eq]
  refine (classAtom_parallel fl c cs).bind (fun first rest _ => ?_) fun _ => rfl
  dsimp only
  refine Behind.afterBlanks fl rest (fun ds hds => ?_) (single_parallel fl first rest)
  cases ds with
  | nil => exact single_parallel fl first rest
  | cons d after =>
    rcases eq_or_ne d '-' with rfl | hd
    · simp only [List.cons_append, continuesRange_append]
      split
      · have hafter : after <:+ rest := (List.suffix_cons '-' after).trans hds
        refine Behind.afterBlanks fl after (fun es hes => ?_) .unread
        cases es with
        | nil => exact .unread
        | cons e es =>
          refine Parallel.of_suffix ?_ ((List.suffix_cons e es).trans (hes.trans hafter))
          exact (classAtom_parallel fl e es).bind
            (fun last rest _ => rangeTo_parallel fl first last rest) fun _ => rfl
      · exact single_parallel fl first rest
    · rw [List.cons_append]
      split
      · next h => exact absurd (List.cons.inj h).1 hd
      · split
        · next h => exact absurd (List.cons.inj h).1 hd
        · exact single_parallel fl first rest

/-- A named class, from after its colon and its sign of negation on. -/
def classNamed? (negated : Bool) (cs : List Char) : Option (Bool × CodePoints × List Char) :=
  match cs.dropWhile (· != ':') with
  | ':' :: ']' :: after =>
    (Alphabet.named? (String.ofList (cs.takeWhile (· != ':')))).map (negated, ·, after)
  | _ => none

/-- Whether a named class is negated, and what follows the sign for it. -/
def signOfNamed (cs : List Char) : Bool × List Char :=
  match cs with
  | '^' :: rest => (true, rest)
  | _ => (false, cs)

theorem signOfNamed_append (cs : List Char) :
    signOfNamed (cs ++ [')']) = ((signOfNamed cs).1, (signOfNamed cs).2 ++ [')']) := by
  cases cs with
  | nil => rfl
  | cons c cs =>
    rcases eq_or_ne c '^' with rfl | hc
    · rfl
    · have hother (ds : List Char) : signOfNamed (c :: ds) = (false, c :: ds) := by
        unfold signOfNamed
        split <;> simp_all
      rw [List.cons_append, hother, hother, List.cons_append]

theorem signOfNamed_suffix (cs : List Char) : (signOfNamed cs).2 <:+ cs := by
  unfold signOfNamed
  split
  · exact List.suffix_cons _ _
  · exact List.suffix_refl cs

theorem namedClass_colon (cs : List Char) :
    namedClass? (':' :: cs) = classNamed? (signOfNamed cs).1 (signOfNamed cs).2 := rfl

theorem namedClass_of_ne {c : Char} (cs : List Char) (hc : c ≠ ':') :
    namedClass? (c :: cs) = none := by
  unfold namedClass?
  split
  · next h => exact absurd (List.cons.inj h).1 hc
  · rfl

/-- The parenthesis does not make a named class out of something else. -/
theorem classNamed_append (negated : Bool) (cs : List Char) :
    (classNamed? negated cs = none ∧ classNamed? negated (cs ++ [')']) = none) ∨
      ∃ t rest, rest <:+ cs ∧ classNamed? negated cs = some (negated, t, rest) ∧
        classNamed? negated (cs ++ [')']) = some (negated, t, rest ++ [')']) := by
  unfold classNamed?
  obtain ⟨h, h'⟩ | ⟨c, rest, hsuffix, h, h', hname⟩ :=
    takeWhile_append_paren (p := (· != ':')) (by decide) cs
  · rw [h, h']
    exact .inl ⟨rfl, rfl⟩
  · rw [h, h', hname]
    cases rest with
    | nil => exact .inl (by split <;> simp_all)
    | cons d rest =>
      rw [List.cons_append]
      by_cases hd : c = ':' ∧ d = ']'
      · obtain ⟨rfl, rfl⟩ := hd
        cases Alphabet.named? (String.ofList (cs.takeWhile (· != ':'))) with
        | none => exact .inl ⟨rfl, rfl⟩
        | some t => exact .inr ⟨t, rest, (List.suffix_cons _ rest).trans hsuffix, rfl, rfl⟩
      · refine .inl ⟨?_, ?_⟩ <;> split <;> simp_all

theorem namedClass_append (cs : List Char) :
    (namedClass? cs = none ∧ namedClass? (cs ++ [')']) = none) ∨
      ∃ negated t rest, rest <:+ cs ∧ namedClass? cs = some (negated, t, rest) ∧
        namedClass? (cs ++ [')']) = some (negated, t, rest ++ [')']) := by
  cases cs with
  | nil => exact .inl ⟨rfl, rfl⟩
  | cons c cs =>
    rcases eq_or_ne c ':' with rfl | hc
    · rw [List.cons_append, namedClass_colon, namedClass_colon, signOfNamed_append]
      refine (classNamed_append _ (signOfNamed cs).2).imp_right ?_
      rintro ⟨t, rest, hsuffix, h, h'⟩
      exact ⟨_, t, rest, (hsuffix.trans (signOfNamed_suffix cs)).trans (List.suffix_cons ':' cs),
        h, h'⟩
    · exact .inl ⟨namedClass_of_ne cs hc, namedClass_of_ne (cs ++ [')']) hc⟩

theorem classItems_nil (fl : Flags) (n : Nat) (pending : Option Pending)
    (members : List (Nested CodePoints)) : classItems fl n pending members [] = none := by
  cases n <;> simp [classItems]

theorem classItems_parallel (fl : Flags) {n n' : Nat} (pending : Option Pending)
    (members : List (Nested CodePoints)) {cs : List Char} (hn : cs.length < n)
    (hn' : cs.length + 1 < n') :
    Parallel cs (classItems fl n pending members cs)
      (classItems fl n' pending members (cs ++ [')'])) := by
  induction n generalizing n' pending members cs with
  | zero => omega
  | succ n ih =>
    obtain ⟨n', rfl⟩ : ∃ k, n' = k + 1 := ⟨n' - 1, by omega⟩
    simp only [classItems]
    refine Behind.afterBlanks fl cs (fun ds hds => Parallel.of_suffix ?_ hds) .unread
    have hlen := hds.length_le
    split
    case h_1 => exact .unread
    case h_2 rest =>
      simp only [List.length_cons] at hlen
      refine Parallel.of_suffix ?_ (List.suffix_cons '[' rest)
      simp only [List.cons_append]
      obtain ⟨h, h'⟩ | ⟨negated, t, after, hsuffix, h, h'⟩ := namedClass_append rest
      · rw [h, h']
        obtain ⟨negated, first, after, after', hopen, hopen', hbehind⟩ := openClass_parallel fl rest
        simp only [hopen, hopen']
        have hlen' := hbehind.suffix.length_le
        have hinner : Parallel rest (classItems fl n none first after)
            (classItems fl n' none first after') := by
          cases hbehind with
          | ahead hafter => exact (ih none first (by omega) (by omega)).of_suffix hafter
          | hidden => simp only [classItems_nil]; exact .unread
        refine hinner.bind (fun t ds hds => ?_) fun t => ?_
        · dsimp only
          cases fl.negateFolded negated t.value with
          | none => exact .unread
          | some s =>
            have hlen := hds.length_le
            exact ih pending (⟨s, t.depth + 1⟩ :: members) (by omega) (by omega)
        · simp only [classItems_nil]
      · rw [h, h']
        dsimp only
        cases fl.negateFolded negated t with
        | none => exact .unread
        | some s =>
          have hlen' := hsuffix.length_le
          exact (ih pending (.leaf s :: members) (by omega) (by omega)).of_suffix hsuffix
    case h_3 rest => exact .both _ (.ahead (List.suffix_cons ']' rest))
    case h_4 rest | h_5 rest | h_6 rest =>
      simp only [List.length_cons] at hlen
      refine Parallel.of_suffix ?_ ((List.suffix_cons _ rest).trans (List.suffix_cons _ _))
      exact ih _ _ (by omega) (by omega)
    case h_7 hne hopen hclose hand hminus htilde =>
      cases ds with
      | nil => exact absurd rfl hne
      | cons c es =>
      refine Parallel.of_suffix ?_ (List.suffix_cons c es)
      split
      case h_7 =>
        simp only [List.length_cons] at hlen
        refine (classRange_parallel fl c es).bind (fun t rest hrest => ?_) fun t => ?_
        · have hlen' := hrest.length_le
          exact ih _ _ (by omega) (by omega)
        · simp only [classItems_nil]
      case h_1 h => simp at h
      case h_2 rest h => exact absurd (List.cons.inj h).1 fun hc => hopen es (by rw [hc])
      case h_3 rest h => exact absurd (List.cons.inj h).1 fun hc => hclose es (by rw [hc])
      case h_4 rest h =>
        exact absurd h (not_starts_before_paren (w := ['&', '&']) (by decide)
          (by simpa using hand) rest)
      case h_5 rest h =>
        exact absurd h (not_starts_before_paren (w := ['-', '-']) (by decide)
          (by simpa using hminus) rest)
      case h_6 rest h =>
        exact absurd h (not_starts_before_paren (w := ['~', '~']) (by decide)
          (by simpa using htilde) rest)

theorem bracketed_parallel (fl : Flags) (cs : List Char) :
    Parallel cs (bracketed fl cs) (bracketed fl (cs ++ [')'])) := by
  obtain ⟨negated, first, rest, rest', hopen, hopen', hbehind⟩ := openClass_parallel fl cs
  have hitems : Parallel cs (classItems fl (rest.length + 1) none first rest)
      (classItems fl (rest'.length + 1) none first rest') := by
    cases hbehind with
    | ahead h => exact (classItems_parallel fl none first (by omega) (by simp)).of_suffix h
    | hidden => simp only [classItems_nil]; exact .unread
  simp only [bracketed, hopen, hopen']
  refine hitems.bind (fun t rest _ => ?_) fun _ => rfl
  dsimp only
  cases fl.negateFolded negated t.value with
  | none => exact .unread
  | some s => exact .both _ (.ahead (List.suffix_refl rest))

end Descent.Pattern
