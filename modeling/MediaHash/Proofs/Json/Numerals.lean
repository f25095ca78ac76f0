import Mathlib.Data.List.TakeWhile
import MediaHash.Json.Lexer
import MediaHash.Proofs.Text.Numerals

/-!
# Whole numbers in JSON

A whole number is written with its digits and perhaps a minus sign.  Reading
gives it back if it fits a word of 64 bits, with a sign or without one.
-/

namespace MediaHash

namespace Text

theorem numeral_ne_nil (number : Nat) : numeral number ≠ [] :=
  Nat.toDigits_ne_nil

/-- Only the numeral of zero begins with the digit zero. -/
theorem numeral_eq_zero_of_head? {number : Nat}
    (zero : (numeral number).head? = some '0') : numeral number = ['0'] := by
  rcases List.head?_eq_some_iff.mp zero with ⟨rest, split⟩
  have decimal : ∀ letter ∈ rest, letter.isDigit = true := by
    intro letter member
    have inNumeral : letter ∈ numeral number := by
      rw [split]
      exact List.mem_cons_of_mem '0' member
    exact isDigit_of_mem_numeral inNumeral
  cases rest with
  | nil => exact split
  | cons digit rest =>
      -- Without the zero in front, fewer digits would do.
      have sameValue : numeralValue (digit :: rest) = number := by
        rw [← numeralValue_numeral number, split, numeralValue, numeralValue,
          Nat.ofDigitChars_cons (c := '0')]
        rfl
      have shorter := length_numeral_le decimal (List.cons_ne_nil digit rest)
      rw [sameValue, split, List.length_cons] at shorter
      omega

end Text

namespace Json

namespace Numeral

open Text

theorem takeDigits_numeral (number : Nat) :
    takeDigits (numeral number) = some (numeral number, []) := by
  have decimal : ∀ letter ∈ numeral number, letter.isDigit = true :=
    fun letter => isDigit_of_mem_numeral
  rw [takeDigits, List.takeWhile_eq_self_iff.mpr decimal,
    List.dropWhile_eq_nil_iff.mpr decimal]
  simp [numeral_ne_nil]

/-- The digits of a number are read as its digits, behind a sign or without. -/
theorem ofChars?_numeral (number : Nat) :
    ofChars? (numeral number) = some ⟨false, numeral number, [], none⟩ ∧
      ofChars? ('-' :: numeral number) =
        some ⟨true, numeral number, [], none⟩ := by
  have noZero : ¬ ((numeral number).head? = some '0' ∧
      numeral number ≠ ['0']) := by
    rintro ⟨zero, different⟩
    exact different (numeral_eq_zero_of_head? zero)
  constructor
  · have noSign : ∀ rest, numeral number ≠ '-' :: rest := by
      intro rest split
      have member : '-' ∈ numeral number := by
        rw [split]
        exact List.mem_cons_self
      exact absurd (isDigit_of_mem_numeral member) (by decide)
    simp [ofChars?, takeDigits_numeral, takeFraction, takeExponent, noZero]
  · simp [ofChars?, takeDigits_numeral, takeFraction, takeExponent, noZero]

/-- Digits of which the value fits 64 bits are all taken. -/
theorem append_of_lt {digits : List Char} {number : Nat}
    (small : Nat.ofDigitChars 10 digits number < UInt64.size) :
    append number digits = (Nat.ofDigitChars 10 digits number, []) := by
  induction digits generalizing number with
  | nil => rfl
  | cons digit rest ih =>
      rw [Nat.ofDigitChars_cons] at small ⊢
      have longer := Nat.lt_of_le_of_lt (le_ofDigitChars rest _) small
      rw [append]
      exact (if_pos longer).trans (ih small)

theorem append_numeral {number : Nat} (small : number < UInt64.size) :
    append 0 (numeral number) = (number, []) := by
  have value : Nat.ofDigitChars 10 (numeral number) 0 = number :=
    numeralValue_numeral number
  rw [append_of_lt (by rwa [value]), value]

end Numeral

/-! ## Reading -/

theorem number_numeral {value : Nat} (small : value < UInt64.size) :
    number (Text.numeral value) = .ok (.int value) := by
  have within : value ≤ Numeral.wholeLimit false :=
    Nat.le_sub_one_of_lt small
  simp [number, (Numeral.ofChars?_numeral value).1, Numeral.whole?,
    Numeral.append_numeral small, within]

theorem number_negative {value : Nat}
    (small : value + 1 ≤ Numeral.wholeLimit true) :
    number ('-' :: Text.numeral (value + 1)) = .ok (.int (.negSucc value)) := by
  have fits : value + 1 < UInt64.size := Nat.lt_of_le_of_lt small (by decide)
  simp [number, (Numeral.ofChars?_numeral (value + 1)).2, Numeral.whole?,
    Numeral.append_numeral fits, small, Int.negSucc_eq]

/-- What begins with a digit or a minus sign is no word. -/
theorem literal_eq_number {written : List Char}
    (numeric : ∀ letter ∈ written.head?,
      letter.isDigit = true ∨ letter = '-') :
    literal written = number written := by
  rw [literal, if_neg, if_neg, if_neg]
  · rintro rfl
    exact absurd (numeric 'f' rfl) (by decide)
  · rintro rfl
    exact absurd (numeric 't' rfl) (by decide)
  · rintro rfl
    exact absurd (numeric 'n' rfl) (by decide)

/-- A whole number fits a word of 64 bits, with a sign or without. -/
structure FitsWord (value : Int) : Prop where
  least : -9223372036854775808 ≤ value
  greatest : value < UInt64.size

theorem literal_signedNumeral {value : Int} (fits : FitsWord value) :
    literal (Text.signedNumeral value) = .ok (.int value) := by
  cases value with
  | ofNat value =>
      have small : value < UInt64.size := by
        have greatest := fits.greatest
        simp only [Int.ofNat_eq_natCast] at greatest
        exact Int.ofNat_lt.mp greatest
      rw [Text.signedNumeral, literal_eq_number]
      · exact number_numeral small
      · intro letter first
        exact Or.inl
          (Text.isDigit_of_mem_numeral (List.mem_of_head? first))
  | negSucc value =>
      have small : value + 1 ≤ Numeral.wholeLimit true := by
        have least := fits.least
        rw [Int.negSucc_eq] at least
        exact Int.ofNat_le.mp (Int.neg_le_neg_iff.mp least)
      rw [Text.signedNumeral, literal_eq_number]
      · exact number_negative small
      · intro letter first
        exact Or.inr (Option.some.inj first).symm

end Json

end MediaHash
