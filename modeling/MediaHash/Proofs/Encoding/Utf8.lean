import MediaHash.Encoding.Utf8
import MediaHash.Proofs.Items.Steps
import MediaHash.Text.CodePoint

/-!
# UTF-8 as a grammar

A scalar value has one of four forms, of one to four bytes.  The bounds on
the bytes of a form leave out exactly the overlong spellings, the surrogates
and the values past U+10FFFF, so that the bytes of a form are those in which
its scalar value is written.  A reader that takes one form after the other
therefore accepts what writing produces and nothing else.

What is written is also the encoding that the core library gives to texts.
-/

namespace MediaHash.Encoding

open Text (toNat_ofNat_of_valid)

/-- One scalar value with the bytes of one of the four forms. -/
inductive Utf8Form : List UInt8 → Char → Prop
  | one (first : UInt8) (below : first.toNat < 0x80) :
      Utf8Form [first] (Char.ofNat first.toNat)
  | two (first second : UInt8)
      (above : 0xC2 ≤ first.toNat) (below : first.toNat ≤ 0xDF)
      (next : isContinuation second = true) :
      Utf8Form [first, second] (joinTwo first second)
  | three (first second third : UInt8)
      (above : 0xE0 ≤ first.toNat) (below : first.toNat ≤ 0xEF)
      (next : isSecondOfThree first second = true)
      (last : isContinuation third = true) :
      Utf8Form [first, second, third] (joinThree first second third)
  | four (first second third fourth : UInt8)
      (above : 0xF0 ≤ first.toNat) (below : first.toNat ≤ 0xF4)
      (next : isSecondOfFour first second = true)
      (further : isContinuation third = true)
      (last : isContinuation fourth = true) :
      Utf8Form [first, second, third, fourth]
        (joinFour first second third fourth)

/-! ## Bounds on bytes -/

theorem isContinuation_iff {byte : UInt8} :
    isContinuation byte = true ↔
      0x80 ≤ byte.toNat ∧ byte.toNat ≤ 0xBF := by
  simp [isContinuation, UInt8.le_iff_toNat_le]

theorem isSecondOfThree_iff {first second : UInt8} :
    isSecondOfThree first second = true ↔
      (0x80 ≤ second.toNat ∧ second.toNat ≤ 0xBF) ∧
        (first.toNat = 0xE0 → 0xA0 ≤ second.toNat) ∧
        (first.toNat = 0xED → second.toNat ≤ 0x9F) := by
  simp only [isSecondOfThree, isContinuation, UInt8.le_iff_toNat_le,
    beq_iff_eq, ← UInt8.toNat_inj]
  split
  next overlong =>
    simp_all
    omega
  next =>
    split
    next surrogate =>
      simp_all
      omega
    next => simp_all

theorem isSecondOfFour_iff {first second : UInt8} :
    isSecondOfFour first second = true ↔
      (0x80 ≤ second.toNat ∧ second.toNat ≤ 0xBF) ∧
        (first.toNat = 0xF0 → 0x90 ≤ second.toNat) ∧
        (first.toNat = 0xF4 → second.toNat ≤ 0x8F) := by
  simp only [isSecondOfFour, isContinuation, UInt8.le_iff_toNat_le,
    beq_iff_eq, ← UInt8.toNat_inj]
  split
  next overlong =>
    simp_all
    omega
  next =>
    split
    next tooLarge =>
      simp_all
      omega
    next => simp_all

theorem toUInt8_eq_of_eq_toNat {number : Nat} (byte : UInt8)
    (same : number = byte.toNat) : number.toUInt8 = byte := by
  rw [same, Nat.toUInt8_eq, UInt8.ofNat_toNat]

/-! ## Scalar values of the longer forms -/

section Joined

variable {first second third fourth : UInt8}

theorem toNat_joinTwo (below : first.toNat ≤ 0xDF)
    (next : isContinuation second = true) :
    (joinTwo first second).toNat =
      (first.toNat - 0xC0) * 64 + (second.toNat - 0x80) := by
  rw [isContinuation_iff] at next
  exact toNat_ofNat_of_valid (Or.inl (by omega))

theorem toNat_joinThree
    (above : 0xE0 ≤ first.toNat) (below : first.toNat ≤ 0xEF)
    (next : isSecondOfThree first second = true)
    (last : isContinuation third = true) :
    (joinThree first second third).toNat =
      (first.toNat - 0xE0) * 4096 + (second.toNat - 0x80) * 64 +
        (third.toNat - 0x80) := by
  rw [isSecondOfThree_iff] at next
  rw [isContinuation_iff] at last
  -- Below ED the value stays under the surrogates, above it is past them.
  rcases Nat.lt_or_ge 0xED first.toNat with high | low
  · exact toNat_ofNat_of_valid (Or.inr (by omega))
  · exact toNat_ofNat_of_valid (Or.inl (by omega))

theorem toNat_joinFour
    (above : 0xF0 ≤ first.toNat) (below : first.toNat ≤ 0xF4)
    (next : isSecondOfFour first second = true)
    (further : isContinuation third = true)
    (last : isContinuation fourth = true) :
    (joinFour first second third fourth).toNat =
      (first.toNat - 0xF0) * 262144 + (second.toNat - 0x80) * 4096 +
        (third.toNat - 0x80) * 64 + (fourth.toNat - 0x80) := by
  rw [isSecondOfFour_iff] at next
  rw [isContinuation_iff] at further last
  exact toNat_ofNat_of_valid (Or.inr (by omega))

end Joined

/-! ## A form is how its scalar value is written -/

theorem utf8Bytes_of_form {bytes : List UInt8} {letter : Char}
    (form : Utf8Form bytes letter) : utf8Bytes letter = bytes := by
  cases form with
  | one first below =>
      have code : (Char.ofNat first.toNat).toNat = first.toNat :=
        toNat_ofNat_of_valid (Or.inl (by omega))
      rw [utf8Bytes, code, if_pos below, toUInt8_eq_of_eq_toNat first rfl]
  | two first second above below next =>
      have code := toNat_joinTwo below next
      rw [isContinuation_iff] at next
      rw [utf8Bytes, code, if_neg (by omega), if_pos (by omega),
        toUInt8_eq_of_eq_toNat first (by omega),
        toUInt8_eq_of_eq_toNat second (by omega)]
  | three first second third above below next last =>
      have code := toNat_joinThree above below next last
      rw [isSecondOfThree_iff] at next
      rw [isContinuation_iff] at last
      rw [utf8Bytes, code, if_neg (by omega), if_neg (by omega),
        if_pos (by omega), toUInt8_eq_of_eq_toNat first (by omega),
        toUInt8_eq_of_eq_toNat second (by omega),
        toUInt8_eq_of_eq_toNat third (by omega)]
  | four first second third fourth above below next further last =>
      have code := toNat_joinFour above below next further last
      rw [isSecondOfFour_iff] at next
      rw [isContinuation_iff] at further last
      rw [utf8Bytes, code, if_neg (by omega), if_neg (by omega),
        if_neg (by omega), toUInt8_eq_of_eq_toNat first (by omega),
        toUInt8_eq_of_eq_toNat second (by omega),
        toUInt8_eq_of_eq_toNat third (by omega),
        toUInt8_eq_of_eq_toNat fourth (by omega)]

theorem Utf8Form.congr {bytes : List UInt8} {joined letter : Char}
    (form : Utf8Form bytes joined) (same : joined.toNat = letter.toNat) :
    Utf8Form bytes letter := by
  rwa [← Char.toNat_inj.mp same]

/-- A number below 256 is a byte of that value. -/
theorem exists_byte (number : Nat) (small : number < 256) :
    ∃ byte : UInt8, number.toUInt8 = byte ∧ byte.toNat = number := by
  refine ⟨number.toUInt8, rfl, ?_⟩
  rw [Nat.toUInt8_eq, UInt8.toNat_ofNat', Nat.mod_eq_of_lt small]

theorem form_utf8Bytes (letter : Char) :
    Utf8Form (utf8Bytes letter) letter := by
  have valid : letter.toNat < 0xD800 ∨
      0xDFFF < letter.toNat ∧ letter.toNat < 0x110000 := letter.valid
  have tail (rest : Nat) (six : rest < 64) :=
    exists_byte (0x80 + rest) (by omega)
  rcases tail (letter.toNat % 64) (by omega) with ⟨low, isLow, lowValue⟩
  rcases tail (letter.toNat / 64 % 64) (by omega) with
    ⟨middle, isMiddle, middleValue⟩
  rcases tail (letter.toNat / 4096 % 64) (by omega) with
    ⟨high, isHigh, highValue⟩
  have last : isContinuation low = true := isContinuation_iff.mpr (by omega)
  rw [utf8Bytes, isLow, isMiddle, isHigh]
  split
  next =>
    rcases exists_byte letter.toNat (by omega) with
      ⟨lead, isLead, leadValue⟩
    rw [isLead]
    refine (Utf8Form.one lead (by omega)).congr ?_
    rw [leadValue, Char.ofNat_toNat]
  next =>
    split
    next =>
      rcases exists_byte (0xC0 + letter.toNat / 64) (by omega) with
        ⟨lead, isLead, leadValue⟩
      rw [isLead]
      refine (Utf8Form.two lead low (by omega) (by omega) last).congr ?_
      rw [toNat_joinTwo (by omega) last]
      omega
    next =>
      split
      next =>
        rcases exists_byte (0xE0 + letter.toNat / 4096)
          (by omega) with ⟨lead, isLead, leadValue⟩
        have next : isSecondOfThree lead middle = true :=
          isSecondOfThree_iff.mpr (by omega)
        rw [isLead]
        refine (Utf8Form.three lead middle low (by omega) (by omega)
          next last).congr ?_
        rw [toNat_joinThree (by omega) (by omega) next last]
        omega
      next =>
        rcases exists_byte (0xF0 + letter.toNat / 262144)
          (by omega) with ⟨lead, isLead, leadValue⟩
        have next : isSecondOfFour lead high = true :=
          isSecondOfFour_iff.mpr (by omega)
        have further : isContinuation middle = true :=
          isContinuation_iff.mpr (by omega)
        rw [isLead]
        refine (Utf8Form.four lead high middle low (by omega) (by omega)
          next further last).congr ?_
        rw [toNat_joinFour (by omega) (by omega) next further last]
        omega

/-! ## Reading form by form -/

theorem readUtf8From_append {bytes : List UInt8} {letter : Char}
    (form : Utf8Form bytes letter) (index : Nat) (rest : List UInt8) :
    readUtf8From index (bytes ++ rest) =
      (letter :: ·) <$> readUtf8From (index + bytes.length) rest := by
  cases form with
  | one first below =>
      have isOne : first < 0x80 := below
      show readUtf8From index (first :: rest) = _
      rw [readUtf8From.eq_def]
      simp [isOne]
  | two first second above below next =>
      have notOne : ¬ first < 0x80 :=
        UInt8.not_lt.mpr (Nat.le_trans (by decide) above)
      have isTwo : 0xC2 ≤ first ∧ first ≤ 0xDF := ⟨above, below⟩
      show readUtf8From index (first :: second :: rest) = _
      rw [readUtf8From.eq_def]
      simp [notOne, isTwo, next]
  | three first second third above below next last =>
      have notOne : ¬ first < 0x80 :=
        UInt8.not_lt.mpr (Nat.le_trans (by decide) above)
      have notTwo : ¬ first ≤ 0xDF :=
        UInt8.not_le.mpr (Nat.lt_of_lt_of_le (by decide) above)
      have isThree : 0xE0 ≤ first ∧ first ≤ 0xEF := ⟨above, below⟩
      show readUtf8From index (first :: second :: third :: rest) = _
      rw [readUtf8From.eq_def]
      simp [notOne, notTwo, isThree, next, last]
  | four first second third fourth above below next further last =>
      have notOne : ¬ first < 0x80 :=
        UInt8.not_lt.mpr (Nat.le_trans (by decide) above)
      have notTwo : ¬ first ≤ 0xDF :=
        UInt8.not_le.mpr (Nat.lt_of_lt_of_le (by decide) above)
      have notThree : ¬ first ≤ 0xEF :=
        UInt8.not_le.mpr (Nat.lt_of_lt_of_le (by decide) above)
      have isFour : 0xF0 ≤ first ∧ first ≤ 0xF4 := ⟨above, below⟩
      show readUtf8From index
        (first :: second :: third :: fourth :: rest) = _
      rw [readUtf8From.eq_def]
      simp [notOne, notTwo, notThree, isFour, next, further, last]

/-- A form and the forms after it are read from what they are written in. -/
theorem Utf8Form.append_eq_flatMap {bytes rest : List UInt8} {letter : Char}
    (form : Utf8Form bytes letter)
    {result : Except Utf8Fault (List Char)} {letters : List Char}
    (read : (letter :: ·) <$> result = .ok letters)
    (restWritten : ∀ {more}, result = .ok more →
      rest = more.flatMap utf8Bytes) :
    bytes ++ rest = letters.flatMap utf8Bytes := by
  rcases exists_of_map_eq_ok read with ⟨more, later, rfl⟩
  rw [List.flatMap_cons, utf8Bytes_of_form form, restWritten later]

theorem eq_flatMap_of_readUtf8From {index : Nat} {bytes : List UInt8}
    {letters : List Char} (read : readUtf8From index bytes = .ok letters) :
    bytes = letters.flatMap utf8Bytes := by
  -- Only four ways through the reader succeed, one for each form.
  fun_induction readUtf8From index bytes generalizing letters with
  | case1 =>
      cases read
      rfl
  | case2 index first rest lead ih =>
      exact (Utf8Form.one first lead).append_eq_flatMap read ih
  | case4 index first notOne lead second rest next ih =>
      simp only [Bool.and_eq_true, decide_eq_true_eq] at lead
      exact (Utf8Form.two first second lead.1 lead.2 next).append_eq_flatMap
        read ih
  | case8 index first notOne notTwo lead second next third rest last ih =>
      simp only [Bool.and_eq_true, decide_eq_true_eq] at lead
      exact (Utf8Form.three first second third lead.1 lead.2 next
        last).append_eq_flatMap read ih
  | case14 index first notOne notTwo notThree lead second next third further
      fourth rest last ih =>
      simp only [Bool.and_eq_true, decide_eq_true_eq] at lead
      exact (Utf8Form.four first second third fourth lead.1 lead.2 next
        further last).append_eq_flatMap read ih
  | _ => cases read

theorem readUtf8From_flatMap (index : Nat) (letters : List Char) :
    readUtf8From index (letters.flatMap utf8Bytes) = .ok letters := by
  induction letters generalizing index with
  | nil => rw [List.flatMap_nil, readUtf8From]
  | cons letter rest ih =>
      rw [List.flatMap_cons, readUtf8From_append (form_utf8Bytes letter), ih]
      rfl

/-- Bytes are read exactly as the text that is written in them. -/
theorem readUtf8_eq_ok_iff {bytes : List UInt8} {text : String} :
    readUtf8 bytes = .ok text ↔ bytes = writeUtf8 text := by
  constructor
  · intro read
    rcases exists_of_map_eq_ok read with ⟨letters, success, rfl⟩
    rw [writeUtf8, String.toList_ofList]
    exact eq_flatMap_of_readUtf8From success
  · rintro rfl
    rw [readUtf8, writeUtf8, readUtf8From_flatMap]
    exact congrArg Except.ok String.ofList_toList

/-! ## The encoding of the core library -/

theorem utf8Bytes_eq_utf8EncodeChar (letter : Char) :
    utf8Bytes letter = String.utf8EncodeChar letter := by
  have valid : letter.toNat < 0xD800 ∨
      0xDFFF < letter.toNat ∧ letter.toNat < 0x110000 := letter.valid
  have code : letter.val.toNat = letter.toNat := rfl
  rw [utf8Bytes, String.utf8EncodeChar, code]
  split
  next =>
    rw [if_pos (by omega), Nat.toUInt8_eq]
  next =>
    split
    next =>
      have lead : letter.toNat / 64 % 32 + 192 =
        0xC0 + letter.toNat / 64 := by omega
      rw [if_neg (by omega), if_pos (by omega), lead, Nat.add_comm _ 128]
    next =>
      split
      next =>
        have lead : letter.toNat / 4096 % 16 + 224 =
          0xE0 + letter.toNat / 4096 := by omega
        rw [if_neg (by omega), if_neg (by omega), if_pos (by omega), lead,
          Nat.add_comm _ 128, Nat.add_comm _ 128]
      next =>
        have lead : letter.toNat / 262144 % 8 + 240 =
          0xF0 + letter.toNat / 262144 := by omega
        rw [if_neg (by omega), if_neg (by omega), if_neg (by omega), lead,
          Nat.add_comm _ 128, Nat.add_comm _ 128, Nat.add_comm _ 128]

theorem writeUtf8_eq_toUTF8 (text : String) :
    writeUtf8 text = text.toUTF8.data.toList := by
  rw [String.toUTF8, ← String.utf8Encode_toList, List.utf8Encode,
    List.toList_data_toByteArray, writeUtf8]
  exact congrArg text.toList.flatMap (funext utf8Bytes_eq_utf8EncodeChar)

end MediaHash.Encoding
