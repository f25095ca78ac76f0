import MediaHash.Encoding.Utf16
import MediaHash.Proofs.Encoding.Utf8

/-!
# UTF-16 as a grammar

A scalar value is one unit that is no surrogate, or a high surrogate and a
low one.  Both are the units in which it is written, and in either order the
two bytes of a unit are those that join to it.  Reading thus accepts what
writing produces in the same order of bytes, and nothing else.
-/

namespace MediaHash.Encoding

open Text (toNat_ofNat_of_valid)

/-! ## Units and bytes -/

theorem toNat_toUInt16_or (high low : UInt8) :
    (high.toUInt16 <<< 8 ||| low.toUInt16).toNat =
      high.toNat * 256 + low.toNat := by
  have highBound : high.toNat < 256 := high.toNat_lt
  have lowBound : low.toNat < 256 := low.toNat_lt
  have shifted : (high.toUInt16 <<< 8).toNat = high.toNat <<< 8 := by
    rw [UInt16.toNat_shiftLeft, UInt8.toNat_toUInt16, Nat.mod_eq_of_lt]
    · rfl
    · show high.toNat <<< 8 < 65536
      rw [Nat.shiftLeft_eq]
      omega
  rw [UInt16.toNat_or, shifted, UInt8.toNat_toUInt16,
    ← Nat.shiftLeft_add_eq_or_of_lt lowBound, Nat.shiftLeft_eq]

theorem toNat_highByte (unit : UInt16) :
    (unit >>> 8).toUInt8.toNat = unit.toNat / 256 := by
  have bound : unit.toNat < 65536 := unit.toNat_lt
  have shifted : (unit >>> 8).toNat = unit.toNat / 256 :=
    Nat.shiftRight_eq_div_pow unit.toNat 8
  rw [UInt16.toNat_toUInt8, shifted]
  omega

theorem joinBytes_split (unit : UInt16) :
    (unit >>> 8).toUInt8.toUInt16 <<< 8 ||| unit.toUInt8.toUInt16 = unit := by
  rw [← UInt16.toNat_inj, toNat_toUInt16_or, toNat_highByte,
    UInt16.toNat_toUInt8]
  omega

theorem splitBytes_join (high low : UInt8) :
    ((high.toUInt16 <<< 8 ||| low.toUInt16) >>> 8).toUInt8 = high ∧
      (high.toUInt16 <<< 8 ||| low.toUInt16).toUInt8 = low := by
  have lowBound : low.toNat < 256 := low.toNat_lt
  constructor
  · rw [← UInt8.toNat_inj, toNat_highByte, toNat_toUInt16_or]
    omega
  · rw [← UInt8.toNat_inj, UInt16.toNat_toUInt8, toNat_toUInt16_or]
    omega

theorem ByteOrder.split_join (order : ByteOrder) (first second : UInt8) :
    order.split (order.join first second) = [first, second] := by
  cases order with
  | littleEndian =>
      rw [split, join, (splitBytes_join second first).1,
        (splitBytes_join second first).2]
  | bigEndian =>
      rw [split, join, (splitBytes_join first second).1,
        (splitBytes_join first second).2]

/-- A unit is two bytes, and they join to it. -/
theorem ByteOrder.exists_split (order : ByteOrder) (unit : UInt16) :
    ∃ first second, order.split unit = [first, second] ∧
      order.join first second = unit := by
  cases order with
  | littleEndian => exact ⟨_, _, rfl, joinBytes_split unit⟩
  | bigEndian => exact ⟨_, _, rfl, joinBytes_split unit⟩

/-- Units are found exactly in the bytes into which they are split. -/
theorem unitsOf_eq_some_iff {order : ByteOrder} {bytes : List UInt8}
    {units : List UInt16} :
    unitsOf order bytes = some units ↔ bytes = units.flatMap order.split := by
  constructor
  · intro found
    fun_induction unitsOf order bytes generalizing units with
    | case1 =>
        rcases Option.some.inj found with rfl
        rfl
    | case2 => cases found
    | case3 first second rest ih =>
        rcases Option.map_eq_some_iff.mp found with ⟨more, later, rfl⟩
        rw [List.flatMap_cons, order.split_join, ← ih later]
        rfl
  · rintro rfl
    induction units with
    | nil => rfl
    | cons unit rest ih =>
        rcases order.exists_split unit with ⟨first, second, split, join⟩
        rw [List.flatMap_cons, split]
        show (order.join first second :: ·) <$>
          unitsOf order (rest.flatMap order.split) = _
        rw [ih, join]
        rfl

/-! ## Units and characters -/

/-- One scalar value with its unit, or with its pair of surrogates. -/
inductive Utf16Form : List UInt16 → Char → Prop
  | single (unit : UInt16) (notHigh : isHighSurrogate unit = false)
      (notLow : isLowSurrogate unit = false) :
      Utf16Form [unit] (Char.ofNat unit.toNat)
  | pair (high low : UInt16) (isHigh : isHighSurrogate high = true)
      (isLow : isLowSurrogate low = true) :
      Utf16Form [high, low] (joinSurrogates high low)

theorem isHighSurrogate_iff {unit : UInt16} :
    isHighSurrogate unit = true ↔
      0xD800 ≤ unit.toNat ∧ unit.toNat ≤ 0xDBFF := by
  simp [isHighSurrogate, UInt16.le_iff_toNat_le]

theorem isLowSurrogate_iff {unit : UInt16} :
    isLowSurrogate unit = true ↔
      0xDC00 ≤ unit.toNat ∧ unit.toNat ≤ 0xDFFF := by
  simp [isLowSurrogate, UInt16.le_iff_toNat_le]

theorem toNat_joinSurrogates {high low : UInt16}
    (isHigh : isHighSurrogate high = true)
    (isLow : isLowSurrogate low = true) :
    (joinSurrogates high low).toNat =
      0x10000 + (high.toNat - 0xD800) * 1024 + (low.toNat - 0xDC00) := by
  rw [isHighSurrogate_iff] at isHigh
  rw [isLowSurrogate_iff] at isLow
  exact toNat_ofNat_of_valid (Or.inr (by omega))

theorem toUInt16_eq_of_eq_toNat {number : Nat} (unit : UInt16)
    (same : number = unit.toNat) : number.toUInt16 = unit := by
  rw [same, Nat.toUInt16_eq, UInt16.ofNat_toNat]

theorem exists_unit (number : Nat) (small : number < 65536) :
    ∃ unit : UInt16, number.toUInt16 = unit ∧ unit.toNat = number := by
  refine ⟨number.toUInt16, rfl, ?_⟩
  rw [Nat.toUInt16_eq, UInt16.toNat_ofNat', Nat.mod_eq_of_lt small]

theorem utf16Units_of_form {units : List UInt16} {letter : Char}
    (form : Utf16Form units letter) : utf16Units letter = units := by
  cases form with
  | single unit notHigh notLow =>
      have bound : unit.toNat < 65536 := unit.toNat_lt
      rw [← Bool.not_eq_true, isHighSurrogate_iff] at notHigh
      rw [← Bool.not_eq_true, isLowSurrogate_iff] at notLow
      have code : (Char.ofNat unit.toNat).toNat = unit.toNat :=
        toNat_ofNat_of_valid (by unfold Nat.isValidChar; omega)
      rw [utf16Units, code, if_pos bound, toUInt16_eq_of_eq_toNat unit rfl]
  | pair high low isHigh isLow =>
      have code := toNat_joinSurrogates isHigh isLow
      rw [isHighSurrogate_iff] at isHigh
      rw [isLowSurrogate_iff] at isLow
      rw [utf16Units, code, if_neg (by omega),
        toUInt16_eq_of_eq_toNat high (by omega),
        toUInt16_eq_of_eq_toNat low (by omega)]

theorem Utf16Form.congr {units : List UInt16} {joined letter : Char}
    (form : Utf16Form units joined) (same : joined.toNat = letter.toNat) :
    Utf16Form units letter := by
  rwa [← Char.toNat_inj.mp same]

theorem form_utf16Units (letter : Char) :
    Utf16Form (utf16Units letter) letter := by
  have valid : letter.toNat < 0xD800 ∨
      0xDFFF < letter.toNat ∧ letter.toNat < 0x110000 := letter.valid
  rw [utf16Units]
  split
  next =>
    rcases exists_unit letter.toNat (by omega) with
      ⟨unit, isUnit, value⟩
    have notHigh : isHighSurrogate unit = false := by
      rw [← Bool.not_eq_true, isHighSurrogate_iff]
      omega
    have notLow : isLowSurrogate unit = false := by
      rw [← Bool.not_eq_true, isLowSurrogate_iff]
      omega
    rw [isUnit]
    refine (Utf16Form.single unit notHigh notLow).congr ?_
    rw [value, Char.ofNat_toNat]
  next =>
    rcases exists_unit
      (0xD800 + (letter.toNat - 0x10000) / 1024) (by omega) with
      ⟨high, highUnit, highValue⟩
    rcases exists_unit
      (0xDC00 + (letter.toNat - 0x10000) % 1024) (by omega) with
      ⟨low, lowUnit, lowValue⟩
    have isHigh : isHighSurrogate high = true :=
      isHighSurrogate_iff.mpr (by omega)
    have isLow : isLowSurrogate low = true :=
      isLowSurrogate_iff.mpr (by omega)
    rw [highUnit, lowUnit]
    refine (Utf16Form.pair high low isHigh isLow).congr ?_
    rw [toNat_joinSurrogates isHigh isLow]
    omega

theorem readUnits_append {units : List UInt16} {letter : Char}
    (form : Utf16Form units letter) (rest : List UInt16) :
    readUnits (units ++ rest) = (letter :: ·) <$> readUnits rest := by
  cases form with
  | single unit notHigh notLow =>
      show readUnits (unit :: rest) = _
      rw [readUnits.eq_def]
      simp [notHigh, notLow]
  | pair high low isHigh isLow =>
      show readUnits (high :: low :: rest) = _
      rw [readUnits.eq_def]
      simp [isHigh, isLow]

theorem eq_flatMap_of_readUnits {units : List UInt16} {letters : List Char}
    (read : readUnits units = .ok letters) :
    units = letters.flatMap utf16Units := by
  fun_induction readUnits units generalizing letters with
  | case1 =>
      cases read
      rfl
  | case3 high isHigh low rest isLow ih =>
      rcases exists_of_map_eq_ok read with ⟨more, later, rfl⟩
      rw [List.flatMap_cons, utf16Units_of_form (.pair high low isHigh isLow),
        ← ih later]
      rfl
  | case6 unit rest notHigh notLow ih =>
      rw [Bool.not_eq_true] at notHigh notLow
      rcases exists_of_map_eq_ok read with ⟨more, later, rfl⟩
      rw [List.flatMap_cons, utf16Units_of_form (.single unit notHigh notLow),
        ← ih later]
      rfl
  | _ => cases read

theorem readUnits_flatMap (letters : List Char) :
    readUnits (letters.flatMap utf16Units) = .ok letters := by
  induction letters with
  | nil => rfl
  | cons letter rest ih =>
      rw [List.flatMap_cons, readUnits_append (form_utf16Units letter), ih]
      rfl

/-- Bytes are read exactly as the text that is written in them. -/
theorem readUtf16_eq_ok_iff {order : ByteOrder} {bytes : List UInt8}
    {text : String} :
    readUtf16 order bytes = .ok text ↔ bytes = writeUtf16 order text := by
  constructor
  · intro read
    rw [readUtf16] at read
    cases found : unitsOf order bytes with
    | none =>
        rw [found] at read
        cases read
    | some units =>
        rw [found] at read
        rcases exists_of_map_eq_ok read with ⟨letters, success, rfl⟩
        rw [writeUtf16, String.toList_ofList,
          ← eq_flatMap_of_readUnits success]
        exact unitsOf_eq_some_iff.mp found
  · rintro rfl
    rw [readUtf16, writeUtf16, unitsOf_eq_some_iff.mpr rfl]
    show String.ofList <$> readUnits _ = _
    rw [readUnits_flatMap]
    exact congrArg Except.ok String.ofList_toList

end MediaHash.Encoding
