import Descent.Proofs.Grammar.Undoing

/-!
# Records with their length in front

A file begins with two magic bytes. Records follow, each a mark, the number of bytes it holds, and
these bytes. Decoding undoes encoding in both directions: what is decoded from a file is what was
written to it, up to the first place where no record is complete.
-/
namespace Descent

namespace Records

/-- `PK` in ASCII. -/
def magic : List UInt8 := [0x50, 0x4B]

def mark : UInt8 := 0xAA

/-- A byte, and after it as many as it says. -/
def payload : Grammar (Leaf UInt8) Empty Unit (List UInt8) :=
  (Grammar.leaf (.satisfying "length" fun _ => true)).bind fun n =>
    (Grammar.leaf .any).replicate n.toNat

def record : Grammar (Leaf UInt8) Empty Unit (List UInt8) :=
  (Grammar.leaf (.exactly mark)).andThen (.defer none payload)

def file : Grammar (Leaf UInt8) Empty Unit (List (List UInt8)) :=
  (Grammar.leaf (.literal magic)).andThen (.defer none (.many record))

def noRules : Rules (Leaf UInt8) Empty Unit := fun r => r.elim

/-- What a record is written as. -/
def encode (p : List UInt8) : List UInt8 :=
  mark :: UInt8.ofNat p.length :: p

/-- No complete record comes first: there is nothing, or no mark, or the length is missing, or
fewer bytes are left than the length says. -/
inductive Incomplete : List UInt8 → Prop where
  | nil : Incomplete []
  | unmarked {b : UInt8} {s : List UInt8} (h : b ≠ mark) : Incomplete (b :: s)
  | unmeasured : Incomplete [mark]
  | truncated {n : UInt8} {s : List UInt8} (h : s.length < n.toNat) : Incomplete (mark :: n :: s)

/-- The length of a list that fits a byte is that byte. -/
theorem length_eq_toNat_iff {p : List UInt8} {n : UInt8} :
    p.length = n.toNat ↔ p.length ≤ 255 ∧ UInt8.ofNat p.length = n := by
  constructor
  · intro h
    have hlt := n.toNat_lt
    refine ⟨by omega, ?_⟩
    rw [h, UInt8.ofNat_toNat]
  · rintro ⟨hle, rfl⟩
    rw [UInt8.toNat_ofNat', Nat.mod_eq_of_lt (by omega)]

/-- A rest is incomplete if and only if no record that is written begins it. -/
theorem incomplete_iff {t : List UInt8} :
    Incomplete t ↔ ∀ p, p.length ≤ 255 → ¬ encode p <+: t := by
  constructor
  · rintro h p hp hprefix
    cases h with
    | nil => simp [encode] at hprefix
    | unmarked hb => exact hb (List.cons_prefix_cons.mp hprefix).1.symm
    | unmeasured => simp [encode] at hprefix
    | @truncated n s hs =>
      obtain ⟨-, hprefix⟩ := List.cons_prefix_cons.mp hprefix
      obtain ⟨hn, hprefix⟩ := List.cons_prefix_cons.mp hprefix
      have hlength := length_eq_toNat_iff.mpr ⟨hp, hn⟩
      have hle := hprefix.length_le
      omega
  · intro h
    rcases t with _ | ⟨b, t⟩
    · exact .nil
    by_cases hb : b = mark
    · subst hb
      rcases t with _ | ⟨n, s⟩
      · exact .unmeasured
      refine .truncated (Nat.lt_of_not_le fun hn => ?_)
      -- As many bytes as announced make up a record.
      have hlength : (s.take n.toNat).length = n.toNat := List.length_take_of_le hn
      obtain ⟨hle, he⟩ := length_eq_toNat_iff.mp hlength
      refine h (s.take n.toNat) hle ?_
      rw [encode, he]
      exact List.cons_prefix_cons.mpr ⟨rfl, List.cons_prefix_cons.mpr ⟨rfl, List.take_prefix _ _⟩⟩
    · exact .unmarked hb

section language
open ElementCursor

theorem undoes_payload : noRules.Undoes Leaf.read (Sound (α := UInt8)) payload
    (fun p => p.length ≤ 255) fun p => UInt8.ofNat p.length :: p := by
  have hbytes : ∀ n : UInt8, noRules.Undoes Leaf.read (Sound (α := UInt8))
      ((Grammar.leaf .any).replicate n.toNat)
      (fun p => p.length ≤ 255 ∧ UInt8.ofNat p.length = n) id := by
    intro n
    refine ((noRules.undoes_any trackable).replicate trackable.toWalkable n.toNat).congr
      (fun p => ?_) fun p => (List.flatMap_singleton' p).symm
    rw [← length_eq_toNat_iff]
    exact (and_iff_left fun _ _ => trivial).symm
  exact ((noRules.undoes_satisfying trackable "length" fun _ => true).bind trackable.toWalkable
    fun n _ => hbytes n).congr (fun p => (and_iff_right rfl).symm) fun p => rfl

theorem undoes_record : noRules.Undoes Leaf.read (Sound (α := UInt8)) record
    (fun p => p.length ≤ 255) encode :=
  (undoes_payload.defer none).separated trackable.toWalkable (noRules.undoes_exactly trackable mark)

theorem sound_start (b : Source UInt8) : (start b).Sound :=
  ⟨canonical_start b, fun _ _ => beq_self_eq_true _⟩

/-- Records are read up to a rest that is incomplete. -/
theorem endsWith_records_iff {c d : ElementCursor UInt8} {ps : List (List UInt8)} (hc : c.Sound) :
    noRules.EndsWith Leaf.read (.many record) c (.success ps d) ↔
      (∀ p ∈ ps, p.length ≤ 255) ∧ Cursor.Passes c (ps.flatMap encode) d ∧
        Incomplete d.remaining := by
  rw [incomplete_iff]
  exact undoes_record.many_success_iff ordered (fun _ _ => List.cons_ne_nil _ _) hc

theorem endsWith_file_iff {b : Source UInt8} {ps : List (List UInt8)} {d : ElementCursor UInt8} :
    noRules.EndsWith Leaf.read file (start b) (.success ps d) ↔
      (∀ p ∈ ps, p.length ≤ 255) ∧ Cursor.Passes (start b) (magic ++ ps.flatMap encode) d ∧
        Incomplete d.remaining := by
  have hmagic := noRules.undoes_literal (trackable (α := UInt8)) magic
  have hstart := sound_start b
  rw [file, Rules.endsWith_andThen_success_iff, trackable.toWalkable.passes_append_iff hstart]
  constructor
  · rintro ⟨m, e, hm, hps⟩
    obtain ⟨rfl, he⟩ := (hmagic.success_iff _ m e hstart).mp hm
    have hgood := he.preserves hstart trackable.toWalkable
    obtain ⟨hoks, hd, hrest⟩ := (endsWith_records_iff hgood).mp hps
    exact ⟨hoks, ⟨e, he, hd⟩, hrest⟩
  · rintro ⟨hoks, ⟨e, he, hd⟩, hrest⟩
    have hgood := he.preserves hstart trackable.toWalkable
    exact ⟨magic, e, (hmagic.success_iff _ magic e hstart).mpr ⟨rfl, he⟩,
      (endsWith_records_iff hgood).mpr ⟨hoks, hd, hrest⟩⟩

/-- Behind the magic bytes nothing fails. -/
theorem exists_failure_file_iff {b : Source UInt8} :
    (∃ e, noRules.EndsWith Leaf.read file (start b) (.failure e)) ↔ ¬ magic <+: b.elements := by
  have hmagic := noRules.undoes_literal (trackable (α := UInt8)) magic
  have hstart := sound_start b
  have hremaining : Cursor.remaining (start b) = b.elements := remaining_start b
  constructor
  · rintro ⟨e, he⟩ hprefix
    rw [← hremaining] at hprefix
    obtain ⟨m, hm⟩ := trackable.toWalkable.exists_passes_of_isPrefix hstart hprefix
    have hread := (hmagic.success_iff _ magic m hstart).mpr ⟨rfl, hm⟩
    obtain ⟨ps, d, hps⟩ := undoes_record.exists_success_many ordered
      (hm.preserves hstart trackable.toWalkable)
    have hfile : noRules.EndsWith Leaf.read file (start b) (.success ps d) :=
      Rules.endsWith_andThen_success_iff.mpr ⟨magic, m, hread, hps⟩
    exact absurd (he.unique hfile) (by simp)
  · intro hno
    refine Rules.exists_failure_bind ((hmagic.failure_iff trackable.toWalkable hstart).mpr ?_)
    rintro _ rfl
    rwa [hremaining]

end language

/-- Decoding undoes encoding: from the start of a file it succeeds with the records `ps` and leaves
the rest `t` exactly if the file is the magic bytes, these records as they are written, and `t`, and
no complete record begins `t`. It fails exactly if the file does not begin with the magic bytes. -/
theorem decoding_undoes_encoding (b : Source UInt8) :
    (∀ ps t, (∃ d, noRules.EndsWith Leaf.read file (ElementCursor.start b) (.success ps d) ∧
        d.remaining = t) ↔
      (∀ p ∈ ps, p.length ≤ 255) ∧ b.elements = magic ++ ps.flatMap encode ++ t ∧ Incomplete t) ∧
    ((∃ e, noRules.EndsWith Leaf.read file (ElementCursor.start b) (.failure e)) ↔
      ¬ magic <+: b.elements) := by
  refine ⟨fun ps t => ?_, exists_failure_file_iff⟩
  have hremaining : Cursor.remaining (ElementCursor.start b) = b.elements :=
    ElementCursor.remaining_start b
  simp only [endsWith_file_iff]
  constructor
  · rintro ⟨d, ⟨hps, hd, hno⟩, rfl⟩
    exact ⟨hps, hremaining.symm.trans hd.remaining_eq, hno⟩
  · rintro ⟨hps, hb, hno⟩
    obtain ⟨d, hd, hrest⟩ := ElementCursor.trackable.toWalkable.exists_passes (sound_start b)
      (hremaining.trans hb)
    change d.remaining = t at hrest
    exact ⟨d, ⟨hps, hd, hrest ▸ hno⟩, hrest⟩

theorem decoding_undoes_encoding_of_two_records :
    let b : Source UInt8 := ⟨0, [0x50, 0x4B, 0xAA, 2, 1, 2, 0xAA, 1, 9, 0xAA, 5, 0]⟩
    let unmarked : Source UInt8 := ⟨0, [0x50, 0xAA, 0]⟩
    (∃ d, noRules.EndsWith Leaf.read file (ElementCursor.start b) (.success [[1, 2], [9]] d) ∧
      d.remaining = [0xAA, 5, 0]) ∧
    ∃ e, noRules.EndsWith Leaf.read file (ElementCursor.start unmarked) (.failure e) :=
  ⟨((decoding_undoes_encoding _).1 _ _).mpr ⟨by decide, rfl, .truncated (by decide)⟩,
    (decoding_undoes_encoding _).2.mpr (by decide)⟩

end Records
end Descent
