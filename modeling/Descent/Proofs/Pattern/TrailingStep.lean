import Descent.Proofs.Pattern.TrailingClass

/-!
# Steps before a closing parenthesis

One step of two readers that stand at the same place of a text, of which the second has a closing
parenthesis after the text. What the first one reads, the second one reads too.
-/
namespace Descent.Pattern

/-- Flags that end before the text does, end before the parenthesis. -/
theorem groupFlags_append {seen seen' : List Char} {fl fl' : Flags} {cs rest : List Char}
    (h : groupFlags seen fl cs = some (seen', fl', rest)) :
    rest ≠ [] ∧ rest <:+ cs ∧
      groupFlags seen fl (cs ++ [')']) = some (seen', fl', rest ++ [')']) := by
  induction cs generalizing seen fl with
  | nil => cases h
  | cons c cs ih =>
    have hcs : cs <:+ c :: cs := List.suffix_cons c cs
    have hlater {seen : List Char} {fl : Flags}
        (h : groupFlags seen fl cs = some (seen', fl', rest)) :
        rest ≠ [] ∧ rest <:+ c :: cs ∧
          groupFlags seen fl (cs ++ [')']) = some (seen', fl', rest ++ [')']) :=
      ⟨(ih h).1, (ih h).2.1.trans hcs, (ih h).2.2⟩
    simp only [List.cons_append, groupFlags] at h ⊢
    split at h
    · split at h
      · cases h
      · next hc hseen =>
        obtain ⟨rfl, rfl, rfl⟩ : seen = seen' ∧ fl = fl' ∧ c :: cs = rest := by simpa using h
        simp [hc, hseen]
    · next hc =>
      rw [if_neg hc]
      split at h
      · cases h
      · next hseen =>
        rw [if_neg hseen]
        split at h
        · next hc =>
          rw [if_pos hc]
          exact hlater h
        · next hc =>
          rw [if_neg hc]
          cases hfl : fl.change (!seen.contains '-') c with
          | none =>
            rw [hfl] at h
            cases h
          | some fl'' =>
            rw [hfl] at h
            exact hlater h

namespace Reader

theorem openNamed_parallel (r : Reader) (cs : List Char) :
    Parallel cs (r.openNamed cs) (r.openNamed (cs ++ [')'])) := by
  refine (groupName_parallel cs).bind (fun name rest _ => ?_) fun _ => rfl
  dsimp only
  split
  · exact .unread
  · exact .both _ (.ahead (List.suffix_refl rest))

/-- What follows the flags of a group: what the group holds, or what the flags are set for. -/
def afterFlags (r : Reader) (x : List Char × Flags × List Char) : Option (Reader × List Char) :=
  match x.2.2 with
  | ':' :: rest => some (r.openGroup x.2.1, rest)
  | _ :: rest =>
    if x.1.isEmpty then none
    else some ({ r with flags := x.2.1, items := .directive :: r.items }, rest)
  | [] => none

theorem flagged_parallel (r : Reader) (cs : List Char) :
    Parallel cs ((groupFlags [] r.flags cs).bind r.afterFlags)
      ((groupFlags [] r.flags (cs ++ [')'])).bind r.afterFlags) := by
  cases hflags : groupFlags [] r.flags cs with
  | none => exact .unread
  | some x =>
    obtain ⟨seen, fl, rest⟩ := x
    obtain ⟨hne, hsuffix, hflags'⟩ := groupFlags_append hflags
    rw [hflags', Option.bind_some, Option.bind_some]
    cases rest with
    | nil => exact absurd rfl hne
    | cons c rest =>
      have hrest : rest <:+ cs := (List.suffix_cons c rest).trans hsuffix
      rcases eq_or_ne c ':' with rfl | hc
      · exact .both _ (.ahead hrest)
      · simp only [List.cons_append, afterFlags]
        split
        · exact .unread
        · exact .both _ (.ahead hrest)

/-- What follows an opening parenthesis and blanks. -/
def afterParenthesis (r : Reader) (cs : List Char) : Option (Reader × List Char) :=
  match cs with
  | '?' :: 'P' :: '<' :: rest => r.openNamed rest
  | '?' :: '<' :: '=' :: _ => none
  | '?' :: '<' :: '!' :: _ => none
  | '?' :: '<' :: rest => r.openNamed rest
  | '?' :: rest => (groupFlags [] r.flags rest).bind r.afterFlags
  | rest => some (r.openCapture, rest)

theorem parenthesis_eq (r : Reader) (cs : List Char) :
    r.parenthesis cs = r.afterParenthesis (r.flags.skip cs) := by
  rfl

theorem afterParenthesis_name (r : Reader) {cs : List Char} (hahead : ∀ tail, cs ≠ ['='] ++ tail)
    (hnot : ∀ tail, cs ≠ ['!'] ++ tail) :
    r.afterParenthesis ('?' :: '<' :: cs) = r.openNamed cs := by
  have hahead : ∀ tail, cs = '=' :: tail → False := hahead
  have hnot : ∀ tail, cs = '!' :: tail → False := hnot
  simp only [afterParenthesis]

theorem afterParenthesis_flags (r : Reader) {cs : List Char}
    (hname : ∀ tail, cs ≠ ['P', '<'] ++ tail) (hname' : ∀ tail, cs ≠ ['<'] ++ tail) :
    r.afterParenthesis ('?' :: cs) = (groupFlags [] r.flags cs).bind r.afterFlags := by
  unfold afterParenthesis
  split <;> simp_all

theorem afterParenthesis_capture (r : Reader) {cs : List Char} (h : ∀ tail, cs ≠ ['?'] ++ tail) :
    r.afterParenthesis cs = some (r.openCapture, cs) := by
  unfold afterParenthesis
  split <;> simp_all

theorem afterParenthesis_parallel (r : Reader) (cs : List Char) :
    Parallel cs (r.afterParenthesis cs) (r.afterParenthesis (cs ++ [')'])) := by
  have hrest (w : List Char) (rest : List Char) : rest <:+ w ++ rest := List.suffix_append w rest
  by_cases hquestion : ∃ tail, cs = ['?'] ++ tail
  · obtain ⟨cs, rfl⟩ := hquestion
    refine Parallel.of_suffix ?_ (hrest ['?'] cs)
    by_cases hname : ∃ tail, cs = ['P', '<'] ++ tail
    · obtain ⟨cs, rfl⟩ := hname
      exact (r.openNamed_parallel cs).of_suffix (hrest ['P', '<'] cs)
    · by_cases hname' : ∃ tail, cs = ['<'] ++ tail
      · obtain ⟨cs, rfl⟩ := hname'
        by_cases hahead : ∃ tail, cs = ['='] ++ tail
        · obtain ⟨cs, rfl⟩ := hahead
          exact .unread
        · by_cases hnot : ∃ tail, cs = ['!'] ++ tail
          · obtain ⟨cs, rfl⟩ := hnot
            exact .unread
          · refine Parallel.of_suffix ?_ (hrest ['<'] cs)
            simp only [not_exists] at hahead hnot
            simp only [List.cons_append, List.nil_append]
            rw [r.afterParenthesis_name hahead hnot,
              r.afterParenthesis_name (not_starts_before_paren (by decide) hahead)
                (not_starts_before_paren (by decide) hnot)]
            exact r.openNamed_parallel cs
      · simp only [not_exists] at hname hname'
        simp only [List.cons_append, List.nil_append]
        rw [r.afterParenthesis_flags hname hname',
          r.afterParenthesis_flags (not_starts_before_paren (by decide) hname)
            (not_starts_before_paren (by decide) hname')]
        exact r.flagged_parallel cs
  · simp only [not_exists] at hquestion
    rw [r.afterParenthesis_capture hquestion,
      r.afterParenthesis_capture (not_starts_before_paren (by decide) hquestion)]
    exact .both _ (.ahead (List.suffix_refl cs))

theorem parenthesis_parallel (r : Reader) (cs : List Char) :
    Parallel cs (r.parenthesis cs) (r.parenthesis (cs ++ [')'])) := by
  rw [parenthesis_eq, parenthesis_eq]
  exact Behind.afterBlanks r.flags cs
    (fun ds hds => (afterParenthesis_parallel r ds).of_suffix hds) (.both _ .hidden)

theorem repeatMarked_parallel (r : Reader) (least : Nat) (most : Option Nat)
    {whole cs cs' : List Char} (h : Behind whole cs cs') :
    Parallel whole (r.repeatMarked least most cs) (r.repeatMarked least most cs') := by
  cases h with
  | hidden => exact Parallel.of_option _ id .hidden
  | ahead h =>
    cases cs with
    | nil => exact Parallel.of_option _ id (.ahead h)
    | cons c cs =>
      rcases eq_or_ne c '?' with rfl | hc
      · exact Parallel.of_option _ id (.ahead ((List.suffix_cons '?' cs).trans h))
      · have hother (ds : List Char) : r.repeatMarked least most (c :: ds) =
            (r.repeatLast least most false).map (·, c :: ds) := by
          unfold repeatMarked
          split
          · next h => exact absurd (List.cons.inj h).1 hc
          · rfl
        rw [List.cons_append, hother, hother]
        exact Parallel.of_option _ id (.ahead h)

/-- The largest number of a counted repetition, from after its comma on. -/
def boundAfterComma (fl : Flags) (cs : List Char) : Option (Option Nat × List Char) :=
  match cs with
  | '\x7d' :: rest => some (none, '\x7d' :: rest)
  | rest => (count fl rest).map fun (n, rest) => (some n, rest)

/-- The largest number of a counted repetition. -/
def upperBound (fl : Flags) (least : Nat) (cs : List Char) : Option (Option Nat × List Char) :=
  match cs with
  | ',' :: rest => boundAfterComma fl (fl.skip rest)
  | rest => some (some least, rest)

/-- The end of a counted repetition. -/
def closeCount (r : Reader) (least : Nat) (x : Option Nat × List Char) :
    Option (Reader × List Char) :=
  match x.2 with
  | '\x7d' :: rest =>
    if x.1.any (· < least) then none
    else r.repeatMarked least x.1 (r.flags.skip rest)
  | _ => none

theorem counted_eq (r : Reader) (cs : List Char) :
    r.counted cs = (count r.flags (r.flags.skip cs)).bind fun x =>
      (upperBound r.flags x.1 x.2).bind (r.closeCount x.1) := by
  unfold counted
  refine congrArg (Option.bind _) (funext fun ⟨least, ds⟩ => ?_)
  dsimp only
  split
  · next rest =>
    change _ = (boundAfterComma r.flags (r.flags.skip rest)).bind (r.closeCount least)
    generalize r.flags.skip rest = es
    split
    · rfl
    · next h =>
      have hcount : boundAfterComma r.flags es =
          (count r.flags es).map fun (n, rest) => (some n, rest) := by
        unfold boundAfterComma
        split
        · next rest => exact absurd rfl (h rest)
        · rfl
      rw [hcount]
      rfl
  · next h =>
    have hexact : upperBound r.flags least ds = some (some least, ds) := by
      unfold upperBound
      split
      · next rest => exact absurd rfl (h rest)
      · rfl
    rw [hexact]
    rfl

theorem boundAfterComma_parallel (fl : Flags) (cs : List Char) :
    Parallel cs (boundAfterComma fl cs) (boundAfterComma fl (cs ++ [')'])) := by
  cases cs with
  | nil => exact (count_parallel fl []).map some
  | cons c cs =>
    rcases eq_or_ne c '\x7d' with rfl | hc
    · exact .both none (.ahead (List.suffix_refl _))
    · have hother (ds : List Char) : boundAfterComma fl (c :: ds) =
          (count fl (c :: ds)).map fun (n, rest) => (some n, rest) := by
        unfold boundAfterComma
        split
        · next h => exact absurd (List.cons.inj h).1 hc
        · rfl
      rw [List.cons_append, hother, hother]
      exact (count_parallel fl (c :: cs)).map some

theorem upperBound_parallel (fl : Flags) (least : Nat) (cs : List Char) :
    Parallel cs (upperBound fl least cs) (upperBound fl least (cs ++ [')'])) := by
  cases cs with
  | nil => exact .both _ (.ahead List.nil_suffix)
  | cons c cs =>
    rcases eq_or_ne c ',' with rfl | hc
    · refine Parallel.of_suffix ?_ (List.suffix_cons ',' cs)
      simp only [List.cons_append, upperBound]
      exact Behind.afterBlanks fl cs
        (fun ds hds => (boundAfterComma_parallel fl ds).of_suffix hds) .unread
    · have hother (ds : List Char) :
          upperBound fl least (c :: ds) = some (some least, c :: ds) := by
        unfold upperBound
        split
        · next h => exact absurd (List.cons.inj h).1 hc
        · rfl
      rw [List.cons_append, hother, hother]
      exact .both _ (.ahead (List.suffix_refl _))

theorem closeCount_parallel (r : Reader) (least : Nat) (most : Option Nat) (cs : List Char) :
    Parallel cs (r.closeCount least (most, cs)) (r.closeCount least (most, cs ++ [')'])) := by
  cases cs with
  | nil => exact .unread
  | cons c cs =>
    rcases eq_or_ne c '\x7d' with rfl | hc
    · refine Parallel.of_suffix ?_ (List.suffix_cons _ cs)
      simp only [List.cons_append, closeCount]
      split
      · exact .unread
      · exact r.repeatMarked_parallel least most (r.flags.skip_behind cs)
    · have hother (ds : List Char) : r.closeCount least (most, c :: ds) = none := by
        simp only [closeCount]
        split
        · next h => exact absurd (List.cons.inj h).1 hc
        · rfl
      rw [List.cons_append, hother, hother]
      exact .unread

theorem counted_parallel (r : Reader) (cs : List Char) :
    Parallel cs (r.counted cs) (r.counted (cs ++ [')'])) := by
  rw [counted_eq, counted_eq]
  have hcount : Parallel cs (count r.flags (r.flags.skip cs))
      (count r.flags (r.flags.skip (cs ++ [')']))) :=
    Behind.afterBlanks r.flags cs (fun ds hds => (count_parallel r.flags ds).of_suffix hds)
      .unread
  refine hcount.bind (fun least rest _ => ?_) fun _ => rfl
  exact (upperBound_parallel r.flags least rest).bind
    (fun most rest _ => r.closeCount_parallel least most rest) fun _ => rfl

theorem step_parallel (r : Reader) (c : Char) (cs : List Char) :
    Parallel cs (r.step c cs) (r.step c (cs ++ [')'])) := by
  have hcs : Behind cs cs (cs ++ [')']) := .ahead (List.suffix_refl cs)
  unfold step
  split
  case h_1 => exact r.parenthesis_parallel cs
  case h_2 => exact .of_option _ id hcs
  case h_4 =>
    exact (bracketed_parallel r.flags cs).map fun s =>
      r.push ⟨ofSet r.flags.alphabet s.value, s.depth⟩
  case h_5 | h_6 | h_7 => exact r.repeatMarked_parallel _ _ hcs
  case h_8 => exact r.counted_parallel cs
  case h_9 => exact .of_option _ r.pushSet hcs
  case h_12 =>
    have h := escape_parallel r.flags cs
    generalize escape r.flags cs = x, escape r.flags (cs ++ [')']) = x' at h
    cases h with
    | unread => exact .unread
    | both e h => cases e <;> exact .both _ h
  all_goals exact .both _ hcs

end Reader
end Descent.Pattern
