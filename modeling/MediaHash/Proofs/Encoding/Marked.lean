import MediaHash.Manifest.Basic
import MediaHash.Proofs.Encoding.Utf16

/-!
# Bytes in which a text may stand

A text has four spellings as bytes: UTF-8 and the two orders of UTF-16, each
behind its mark, and UTF-8 without a mark as long as it does not look like
one.  The main statement says that reading marked bytes inverts exactly
these spellings, so that a manifest is the same in each of them.
-/

namespace MediaHash.Encoding

/-- The mark in front of UTF-8. -/
def utf8Mark : List UInt8 := [0xEF, 0xBB, 0xBF]

/-- The mark in front of UTF-16. -/
def ByteOrder.mark : ByteOrder → List UInt8
  | littleEndian => [0xFF, 0xFE]
  | bigEndian => [0xFE, 0xFF]

/-- The bytes spell the text in the encoding that they are marked with. -/
inductive Spells (text : String) : List UInt8 → Prop
  | marked8 : Spells text (utf8Mark ++ writeUtf8 text)
  | marked16 (order : ByteOrder) :
      Spells text (order.mark ++ writeUtf16 order text)
  | plain (unmarked : ¬ utf8Mark <+: writeUtf8 text) :
      Spells text (writeUtf8 text)

/-! ## Marks in UTF-8 -/

theorem utf8Bytes_mark : utf8Bytes '\uFEFF' = utf8Mark := by decide

/-- Only a text that begins with U+FEFF looks marked in UTF-8. -/
theorem mark_prefix_writeUtf8_iff {text : String} :
    utf8Mark <+: writeUtf8 text ↔ text.toList.head? = some '\uFEFF' := by
  rw [writeUtf8]
  constructor
  · rintro ⟨rest, split⟩
    have read := readUtf8From_flatMap 0 text.toList
    rw [← split, ← utf8Bytes_mark,
      readUtf8From_append (form_utf8Bytes '\uFEFF')] at read
    rcases exists_of_map_eq_ok read with ⟨more, -, letters⟩
    rw [← letters]
    rfl
  · intro first
    rcases List.head?_eq_some_iff.mp first with ⟨rest, letters⟩
    rw [letters, List.flatMap_cons, utf8Bytes_mark]
    exact List.prefix_append _ _

/-- No UTF-8 begins with a byte past F4, as the marks of UTF-16 do. -/
theorem writeUtf8_ne_cons_of_lt {text : String} {first : UInt8}
    {rest : List UInt8} (past : 0xF4 < first) :
    writeUtf8 text ≠ first :: rest := by
  intro written
  have notOne : ¬ first < 0x80 :=
    UInt8.not_lt.mpr (Nat.le_of_lt (Nat.lt_trans (by decide) past))
  have notTwo : ¬ first ≤ 0xDF :=
    UInt8.not_le.mpr (Nat.lt_trans (by decide) past)
  have notThree : ¬ first ≤ 0xEF :=
    UInt8.not_le.mpr (Nat.lt_trans (by decide) past)
  have notFour : ¬ first ≤ 0xF4 := UInt8.not_le.mpr past
  have read := readUtf8From_flatMap 0 text.toList
  rw [← writeUtf8, written, readUtf8From.eq_def] at read
  simp [notOne, notTwo, notThree, notFour] at read

/-! ## Reading marked bytes -/

theorem readMarked_mark8 (rest : List UInt8) :
    readMarked (utf8Mark ++ rest) = (readUtf8 rest).mapError Fault.utf8 :=
  rfl

theorem readMarked_mark16 (order : ByteOrder) (rest : List UInt8) :
    readMarked (order.mark ++ rest) =
      (readUtf16 order rest).mapError Fault.utf16 := by
  cases order with
  | littleEndian => rfl
  | bigEndian => rfl

theorem readMarked_of_plain {bytes : List UInt8}
    (unmarked : ¬ utf8Mark <+: bytes)
    (notUtf16 : ∀ order : ByteOrder, ¬ order.mark <+: bytes) :
    readMarked bytes = (readUtf8 bytes).mapError Fault.utf8 := by
  unfold readMarked
  split
  next rest => exact absurd (List.prefix_append utf8Mark rest) unmarked
  next rest =>
    exact absurd (List.prefix_append _ rest) (notUtf16 .littleEndian)
  next rest =>
    exact absurd (List.prefix_append _ rest) (notUtf16 .bigEndian)
  next => rfl

theorem readMarked_of_spells {bytes : List UInt8} {text : String}
    (spells : Spells text bytes) : readMarked bytes = .ok text := by
  cases spells with
  | marked8 =>
      rw [readMarked_mark8, mapError_eq_ok_iff, readUtf8_eq_ok_iff]
  | marked16 order =>
      rw [readMarked_mark16, mapError_eq_ok_iff, readUtf16_eq_ok_iff]
  | plain unmarked =>
      have notUtf16 (order : ByteOrder) :
          ¬ order.mark <+: writeUtf8 text := by
        rintro ⟨rest, written⟩
        cases order with
        | littleEndian =>
            exact writeUtf8_ne_cons_of_lt (by decide) written.symm
        | bigEndian =>
            exact writeUtf8_ne_cons_of_lt (by decide) written.symm
      rw [readMarked_of_plain unmarked notUtf16, mapError_eq_ok_iff,
        readUtf8_eq_ok_iff]

theorem spells_of_readMarked {bytes : List UInt8} {text : String}
    (read : readMarked bytes = .ok text) : Spells text bytes := by
  by_cases marked : utf8Mark <+: bytes
  · rcases marked with ⟨rest, rfl⟩
    rw [readMarked_mark8, mapError_eq_ok_iff, readUtf8_eq_ok_iff] at read
    rw [read]
    exact .marked8
  · by_cases wide : ∃ order : ByteOrder, order.mark <+: bytes
    · rcases wide with ⟨order, rest, rfl⟩
      rw [readMarked_mark16, mapError_eq_ok_iff, readUtf16_eq_ok_iff] at read
      rw [read]
      exact .marked16 order
    · rw [readMarked_of_plain marked (not_exists.mp wide),
        mapError_eq_ok_iff, readUtf8_eq_ok_iff] at read
      rw [read] at marked ⊢
      exact .plain marked

theorem ofBytes_of_spells {bytes : List UInt8} {text : String}
    (spells : Spells text bytes) :
    Manifest.ofBytes bytes = Manifest.read text := by
  rw [Manifest.ofBytes, readMarked_of_spells spells]

/--
Marked bytes are read as a text exactly if they spell it, and bytes that
spell no text are a fault.  A manifest is therefore the same in all
spellings of its text, and UTF-8 without a mark is one of them unless the
text begins with U+FEFF.
-/
theorem readMarked_inverts_spelling :
    (∀ bytes text, readMarked bytes = .ok text ↔ Spells text bytes) ∧
    (∀ bytes, (∃ fault, readMarked bytes = .error fault) ↔
      ∀ text, ¬ Spells text bytes) ∧
    (∀ text,
      Manifest.ofBytes (utf8Mark ++ writeUtf8 text) = Manifest.read text ∧
      (∀ order : ByteOrder,
        Manifest.ofBytes (order.mark ++ writeUtf16 order text) =
          Manifest.read text) ∧
      (text.toList.head? ≠ some '\uFEFF' →
        Manifest.ofBytes (writeUtf8 text) = Manifest.read text)) ∧
    ∀ text : String, writeUtf8 text = text.toUTF8.data.toList := by
  have reads : ∀ bytes text,
      readMarked bytes = .ok text ↔ Spells text bytes :=
    fun bytes text => ⟨spells_of_readMarked, readMarked_of_spells⟩
  refine ⟨reads, ?_, ?_, writeUtf8_eq_toUTF8⟩
  · intro bytes
    simp only [← reads]
    cases readMarked bytes with
    | error fault => simp
    | ok text => simp
  · intro text
    refine ⟨ofBytes_of_spells .marked8,
      fun order => ofBytes_of_spells (.marked16 order), ?_⟩
    intro first
    exact ofBytes_of_spells
      (.plain fun marked => first (mark_prefix_writeUtf8_iff.mp marked))

end MediaHash.Encoding
