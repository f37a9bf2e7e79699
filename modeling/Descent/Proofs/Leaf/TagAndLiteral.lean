import Descent.Proofs.Leaf.Passage

/-!
# Tags and literals

A text can be asked for in two ways. A tag compares bytes and takes all of them at once; a literal
compares character by character and stops at the first that differs. No character's bytes begin
those of another, so a text leads another in bytes exactly if it does so in characters, and the two
ways agree on where they succeed and where they leave off. Where they fail, they say different
things: a tag what stands at the cursor, a literal where the texts part.
-/
namespace Descent

namespace Utf8

/-- The bytes of a text. -/
def encode (cs : List Char) : List UInt8 :=
  cs.flatMap String.utf8EncodeChar

@[simp] theorem encode_nil : encode [] = [] := rfl

@[simp] theorem encode_cons (c : Char) (cs : List Char) :
    encode (c :: cs) = String.utf8EncodeChar c ++ encode cs := List.flatMap_cons

theorem encode_append (cs ds : List Char) : encode (cs ++ ds) = encode cs ++ encode ds :=
  List.flatMap_append

theorem length_encode (cs : List Char) : (encode cs).length = byteSize cs := by
  induction cs with
  | nil => rfl
  | cons c cs ih => rw [encode_cons, List.length_append, String.length_utf8EncodeChar, ih,
      byteSize_cons]

/-- The bytes of a text tell its first character. -/
theorem encodeChar_append_inj {c d : Char} {xs ys : List UInt8}
    (h : String.utf8EncodeChar c ++ xs = String.utf8EncodeChar d ++ ys) : c = d ∧ xs = ys := by
  have hdecode := congrArg (fun bytes => bytes.toByteArray.utf8DecodeChar? 0) h
  simp only [List.toByteArray_append, ByteArray.utf8DecodeChar?_utf8EncodeChar_append,
    Option.some.injEq] at hdecode
  subst hdecode
  exact ⟨rfl, List.append_cancel_left h⟩

theorem encode_isPrefix_iff {cs ds : List Char} : encode cs <+: encode ds ↔ cs <+: ds := by
  induction cs generalizing ds with
  | nil => simp
  | cons c cs ih =>
    constructor
    · rintro ⟨rest, hrest⟩
      rw [encode_cons, List.append_assoc] at hrest
      cases ds with
      | nil => exact absurd (List.append_eq_nil_iff.mp hrest).1 String.utf8EncodeChar_ne_nil
      | cons d ds =>
        obtain ⟨rfl, htail⟩ := encodeChar_append_inj hrest
        exact List.cons_prefix_cons.mpr ⟨rfl, ih.mp ⟨rest, htail⟩⟩
    · rintro ⟨rest, rfl⟩
      exact ⟨encode rest, (encode_append _ _).symm⟩

end Utf8

/-- `p` is the longest list that both `xs` and `ys` begin with. -/
def LongestCommonPrefix {α : Type} (p xs ys : List α) : Prop :=
  ∀ zs, zs <+: p ↔ zs <+: xs ∧ zs <+: ys

section
variable {α : Type} {x y : α} {p xs ys : List α}

theorem longestCommonPrefix_of_isPrefix (h : ys <+: xs) : LongestCommonPrefix ys xs ys :=
  fun _ => ⟨fun hz => ⟨hz.trans h, hz⟩, fun hz => hz.2⟩

/-- Two lists that part have in common what comes before. -/
theorem longestCommonPrefix_of_ne (h : x ≠ y) :
    LongestCommonPrefix p (p ++ x :: xs) (p ++ y :: ys) := by
  intro zs
  refine ⟨fun hz => ⟨hz.trans (List.prefix_append _ _), hz.trans (List.prefix_append _ _)⟩, ?_⟩
  rintro ⟨hx, hy⟩
  induction p generalizing zs with
  | nil =>
    cases zs with
    | nil => exact List.nil_prefix
    | cons z zs =>
      have hzx : z = x := (List.cons_prefix_cons.mp hx).1
      have hzy : z = y := (List.cons_prefix_cons.mp hy).1
      exact absurd (hzx.symm.trans hzy) h
  | cons a p ih =>
    cases zs with
    | nil => exact List.nil_prefix
    | cons z zs =>
      obtain ⟨rfl, htail⟩ := List.cons_prefix_cons.mp hx
      exact List.cons_prefix_cons.mpr ⟨rfl, ih zs htail (List.cons_prefix_cons.mp hy).2⟩

theorem not_isPrefix_of_ne (h : x ≠ y) : ¬ p ++ y :: ys <+: p ++ x :: xs := by
  rw [List.prefix_append_right_inj]
  exact fun hprefix => h (List.cons_prefix_cons.mp hprefix).1.symm

end

namespace Leaf
variable {κ α : Type} [Cursor κ α] [BEq α] [LawfulBEq α] [Atom α] {good : κ → Prop} {c : κ}
  (w : Cursor.Trackable good) (hc : good c)
include w hc

theorem readExactly_eq_failure_iff {x : α} {e : ParseError} :
    readExactly x c = .failure e ↔
      (Cursor.remaining c = [] ∧ e = .endOfInput (Cursor.location c)) ∨
        ∃ y ys, Cursor.remaining c = y :: ys ∧ x ≠ y ∧
          e = .unexpected (Atom.describe x) (Atom.describe y) (Cursor.location c) := by
  unfold readExactly readSatisfying
  rw [w.value?_eq c hc]
  cases Cursor.remaining c with
  | nil => simp [eq_comm]
  | cons y ys =>
    by_cases hxy : x = y
    · simp [hxy]
    · have hbeq : (y == x) = false := beq_eq_false_iff_ne.mpr fun h => hxy h.symm
      simp [hbeq, hxy, eq_comm]

/-- A literal fails behind those of its atoms that it has found, where the next one is not. -/
theorem exists_of_readLiteral_failure {xs : List α} {e : ParseError}
    (h : readLiteral xs c = .failure e) :
    ∃ found x missing d, xs = found ++ x :: missing ∧ Cursor.Passes c found d ∧
      readExactly x d = .failure e := by
  induction xs generalizing c with
  | nil => simp [readLiteral] at h
  | cons x xs ih =>
    rw [readLiteral] at h
    cases hx : readExactly x c with
    | failure e' =>
      rw [hx] at h
      obtain rfl := Outcome.failure.inj h
      exact ⟨[], x, xs, c, rfl, .nil c, hx⟩
    | success a b =>
      obtain ⟨rfl, hb⟩ := (readExactly_eq_success_iff w hc).mp hx
      cases hxs : readLiteral xs b with
      | success zs d => simp [hx, hxs, Outcome.flatMap, Outcome.map] at h
      | failure e' =>
        simp only [hx, hxs, Outcome.flatMap, Outcome.map, Outcome.failure.injEq] at h
        obtain rfl := h
        obtain ⟨found, y, missing, d, rfl, hd, hy⟩ := ih (hb.preserves hc w.toWalkable) hxs
        exact ⟨a :: found, y, missing, d, rfl, hb.append hd, hy⟩

end Leaf

/-- The bytes of the source from one place to another. -/
def TextCursor.slice (c d : TextCursor) : List UInt8 :=
  ((Utf8.encode c.source.elements).drop c.offset).take (d.offset - c.offset)

theorem TextCursor.OnBoundary.slice_eq {c d : TextCursor} (hc : c.OnBoundary) {xs : List Char}
    (h : Cursor.Passes c xs d) : c.slice d = Utf8.encode xs := by
  obtain ⟨before, he, ho⟩ := id hc
  have hr : c.remaining = xs ++ d.remaining := h.remaining_eq
  have hoffset : d.offset =
      min (c.offset + Utf8.byteSize xs) (Utf8.byteSize c.source.elements) := by
    rw [← (hc.passes_iff.mp h).2]
    rfl
  have hsize := congrArg Utf8.byteSize he
  rw [hr, Utf8.byteSize_append, Utf8.byteSize_append] at hsize
  have hlength : d.offset - c.offset = Utf8.byteSize xs := by omega
  rw [slice, hlength, he, hr, Utf8.encode_append, Utf8.encode_append, ← ho,
    ← Utf8.length_encode before, ← Utf8.length_encode xs, List.drop_left, List.take_left]

/-- The error of the literal `s` at `c`. It stands where the texts part, and is the end of the input
exactly if what remains is a proper part of `s`, which the literal has found. -/
def LiteralFailsWith (s : List Char) (c : TextCursor) (e : ParseError) : Prop :=
  ∃ found d, LongestCommonPrefix found s c.remaining ∧ Cursor.Passes c found d ∧
    ((e = .endOfInput (Cursor.location d) ∧ c.remaining <+: s ∧ c.remaining ≠ s) ∨
      ∃ x y : Char, e = .unexpected (Atom.describe x) (Atom.describe y) (Cursor.location d) ∧
        found ++ [x] <+: s ∧ found ++ [y] <+: c.remaining ∧ ¬ c.remaining <+: s)

/-- What the tag `s` and the literal `s` do at `c`. -/
structure TagMatchesLiteral (s : List Char) (c : TextCursor) : Prop where
  /-- Both succeed at the same places, and leave off at the same. -/
  success_iff : ∀ d, (∃ v, TextLeaf.read (.inr (.tag s)) c = .success v d) ↔
    ∃ v, TextLeaf.read (.inl (.literal s)) c = .success v d
  /-- It is enough to compare bytes. -/
  bytes_iff : (∃ v d, TextLeaf.read (.inr (.tag s)) c = .success v d) ↔
    Utf8.encode s <+: Utf8.encode c.remaining
  value : ∀ v d, TextLeaf.read (.inr (.tag s)) c = .success v d →
    v = s ∧ c.slice d = Utf8.encode s
  tagError : ∀ e, TextLeaf.read (.inr (.tag s)) c = .failure e →
    e = if Cursor.atEnd c then .endOfInput (Cursor.location c)
      else .unexpected (Quoted.text s)
        (Quoted.text (c.remaining.take (min s.length c.remaining.length))) (Cursor.location c)
  literalError : ∀ e, TextLeaf.read (.inl (.literal s)) c = .failure e → LiteralFailsWith s c e

theorem Stretch.error_of_readTag {s : List Char} {c : TextCursor} {e : ParseError}
    (h : readTag s c = .failure e) :
    e = if Cursor.atEnd c then .endOfInput (Cursor.location c)
      else .unexpected (Quoted.text s)
        (Quoted.text (c.remaining.take (min s.length c.remaining.length))) (Cursor.location c) := by
  have htake : c.remaining.take (min s.length c.remaining.length) =
      c.remaining.take s.length := by
    rw [List.take_eq_take_iff]
    omega
  have hend : Cursor.atEnd c = c.remaining.isEmpty := by
    change c.remaining.head?.isNone = _
    cases c.remaining with
    | nil => rfl
    | cons x xs => rfl
  rw [readTag, ← hend, ← htake] at h
  split at h
  · cases h
  · split at h
    · next hyes => rw [if_pos hyes, Outcome.failure.inj h]
    · next hno => rw [if_neg hno, Outcome.failure.inj h]

section
variable {s : List Char} {c : TextCursor} (hc : c.OnBoundary)
include hc

theorem readTag_eq_readLiteral_iff {v : List Char} {d : TextCursor} :
    Stretch.readTag s c = .success v d ↔ Leaf.readLiteral s c = .success v d :=
  (Stretch.readTag_eq_success_iff hc).trans
    (Leaf.readLiteral_eq_success_iff TextCursor.trackable hc).symm

theorem literalFailsWith_of_failure {e : ParseError} (h : Leaf.readLiteral s c = .failure e) :
    LiteralFailsWith s c e := by
  obtain ⟨found, x, missing, d, rfl, hd, hx⟩ :=
    Leaf.exists_of_readLiteral_failure TextCursor.trackable hc h
  have hgood : d.OnBoundary := hd.preserves hc TextCursor.walkable
  have hr : c.remaining = found ++ d.remaining := hd.remaining_eq
  obtain ⟨hend, rfl⟩ | ⟨y, ys, hnext, hne, rfl⟩ :=
    (Leaf.readExactly_eq_failure_iff TextCursor.trackable hgood).mp hx
  · change d.remaining = [] at hend
    rw [hend, List.append_nil] at hr
    have hprefix : found <+: found ++ x :: missing := List.prefix_append _ _
    rw [LiteralFailsWith, hr]
    have hproper : found ≠ found ++ x :: missing := by simp
    exact ⟨found, d, longestCommonPrefix_of_isPrefix hprefix, hd,
      Or.inl ⟨rfl, hprefix, hproper⟩⟩
  · change d.remaining = y :: ys at hnext
    rw [hnext] at hr
    refine ⟨found, d, ?_, hd, Or.inr ⟨x, y, rfl, ?_, ?_, ?_⟩⟩
    · rw [hr]
      exact longestCommonPrefix_of_ne hne
    · exact ⟨missing, List.append_assoc _ _ _⟩
    · rw [hr]
      exact ⟨ys, List.append_assoc _ _ _⟩
    · rw [hr]
      exact not_isPrefix_of_ne hne

end

/-- A tag and a literal of one text agree at every place of every text on where they succeed and
leave off. A tag that fails says so at its cursor, and shows as much of the remaining text as it has
asked for; a literal that fails says so behind the longest part of it that the remaining text begins
with. -/
theorem tag_agrees_with_literal (s : List Char) (c : TextCursor) (hc : c.OnBoundary) :
    TagMatchesLiteral s c where
  success_iff d := exists_congr fun v => readTag_eq_readLiteral_iff hc
  bytes_iff := by
    rw [Utf8.encode_isPrefix_iff]
    constructor
    · rintro ⟨v, d, h⟩
      obtain ⟨rfl, hd⟩ := (Stretch.readTag_eq_success_iff hc).mp h
      exact hd.isPrefix
    · intro h
      obtain ⟨d, hd⟩ := TextCursor.walkable.exists_passes_of_isPrefix hc h
      exact ⟨s, d, (Stretch.readTag_eq_success_iff hc).mpr ⟨rfl, hd⟩⟩
  value v d h := by
    obtain ⟨rfl, hd⟩ := (Stretch.readTag_eq_success_iff hc).mp h
    exact ⟨rfl, hc.slice_eq hd⟩
  tagError e h := Stretch.error_of_readTag h
  literalError e h := literalFailsWith_of_failure hc h

/-- In "a日x", behind the first character, a tag and a literal that ask for "日本" both fail, the
literal one character further on. -/
theorem tag_agrees_with_literal_midway :
    (⟨⟨0, ['a', '日', 'x']⟩, 1⟩ : TextCursor).OnBoundary ∧
      TagMatchesLiteral ['日', '本'] ⟨⟨0, ['a', '日', 'x']⟩, 1⟩ :=
  have hc : (⟨⟨0, ['a', '日', 'x']⟩, 1⟩ : TextCursor).OnBoundary := ⟨['a'], by decide, by decide⟩
  ⟨hc, tag_agrees_with_literal _ _ hc⟩

end Descent
