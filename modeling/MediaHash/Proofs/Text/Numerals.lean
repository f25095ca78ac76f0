import Mathlib.Algebra.Group.Nat.Defs
import MediaHash.Text.Decimal

/-!
# Padded numerals

Padding changes neither the value of a numeral nor that it is made of digits.
A padded numeral is as long as its width, or as the numeral itself where that
is longer, and no digits for a number are fewer than those of its numeral.
-/

namespace MediaHash.Text

@[simp]
theorem length_paddedNumeral (width number : Nat) :
    (paddedNumeral width number).length =
      max width (numeral number).length := by
  rw [paddedNumeral, List.length_append, List.length_replicate]
  omega

theorem paddedNumeral_ne_nil (width number : Nat) :
    paddedNumeral width number ≠ [] := by
  apply List.append_ne_nil_of_right_ne_nil
  exact Nat.toDigits_ne_nil

theorem isDigit_of_mem_paddedNumeral {width number : Nat} {letter : Char}
    (member : letter ∈ paddedNumeral width number) :
    letter.isDigit = true := by
  rcases List.mem_append.mp member with isZero | inNumeral
  · rw [List.eq_of_mem_replicate isZero]
    rfl
  · exact isDigit_of_mem_numeral inNumeral

@[simp]
theorem numeralValue_paddedNumeral (width number : Nat) :
    numeralValue (paddedNumeral width number) = number := by
  rw [numeralValue, paddedNumeral, Nat.ofDigitChars_append,
    Nat.ofDigitChars_replicate_zero, Nat.mul_zero]
  exact numeralValue_numeral number

/-- Numerals for different numbers differ, whatever their widths. -/
theorem eq_of_paddedNumeral_eq {width otherWidth number other : Nat}
    (equal : paddedNumeral width number = paddedNumeral otherWidth other) :
    number = other := by
  rw [← numeralValue_paddedNumeral width number, equal,
    numeralValue_paddedNumeral]

@[simp]
theorem numeral_zero : numeral 0 = ['0'] := by
  decide

theorem canPad_iff {width : Nat} :
    canPad width = true ↔ width ≤ widestPadding :=
  decide_eq_true_iff

theorem canPad_eq_false_iff {width : Nat} :
    canPad width = false ↔ widestPadding < width := by
  rw [← Bool.not_eq_true, canPad_iff, Nat.not_le]

/-- What is made of padded numerals is not made if one of them cannot be. -/
theorem ite_all_canPad_eq_none_iff {Item Made : Type} {items : List Item}
    {width : Item → Nat} {made : Made} :
    (if items.all fun item => canPad (width item) then some made else none) =
        none ↔
      ∃ item ∈ items, widestPadding < width item := by
  rw [ite_eq_right_iff, imp_iff_not (Option.some_ne_none made),
    Bool.not_eq_true, List.all_eq_false]
  simp only [Bool.not_eq_true, canPad_eq_false_iff]

/-- A number below a power of ten has no more digits than zeros there. -/
theorem length_numeral_le_of_lt {width number : Nat} (positive : 0 < width)
    (small : number < 10 ^ width) : (numeral number).length ≤ width :=
  (Nat.length_toDigits_le_iff (by decide) positive).mpr small

section Digits

variable {digits : List Char}
  (decimal : ∀ letter ∈ digits, letter.isDigit = true)

include decimal

theorem numeralValue_lt : numeralValue digits < 10 ^ digits.length := by
  induction digits with
  | nil => decide
  | cons digit rest ih =>
      rcases List.forall_mem_cons.mp decimal with ⟨isDigit, restDecimal⟩
      have restSmall : Nat.ofDigitChars 10 rest 0 < 10 ^ rest.length :=
        ih restDecimal
      have digitSmall : 10 * 0 + (digit.toNat - '0'.toNat) ≤ 9 := by
        have bounds := Char.isDigit_iff_toNat.mp isDigit
        rw [Nat.mul_zero, Nat.zero_add]
        exact Nat.sub_le_of_le_add bounds.2
      rw [numeralValue, Nat.ofDigitChars_cons,
        Nat.ofDigitChars_eq_ofDigitChars_zero, List.length_cons,
        Nat.pow_succ]
      calc 10 ^ rest.length * (10 * 0 + (digit.toNat - '0'.toNat)) +
            Nat.ofDigitChars 10 rest 0
          < 10 ^ rest.length * 9 + 10 ^ rest.length :=
            Nat.add_lt_add_of_le_of_lt
              (Nat.mul_le_mul_left _ digitSmall) restSmall
        _ = 10 ^ rest.length * 10 := rfl

theorem length_numeral_le (nonempty : digits ≠ []) :
    (numeral (numeralValue digits)).length ≤ digits.length := by
  apply length_numeral_le_of_lt
  · exact List.length_pos_iff.mpr nonempty
  · exact numeralValue_lt decimal

end Digits

end MediaHash.Text
