/-!
# Decimal numerals

Natural numbers are written in decimal without leading zeros, or padded with
zeros on the left to a given width.  Reading accepts any run of the ten
digits, leading zeros included, so that reading a padded numeral gives the
number back.  A numeral that may be long is read up to a limit.

A width that is only known while the program runs must fit a word of 16 bits.
The program breaks off where it is asked to pad to a greater one.
-/

namespace MediaHash.Text

/-- The value of a run of digits, the most significant first. -/
def numeralValue (digits : List Char) : Nat :=
  Nat.ofDigitChars 10 digits 0

/-- The digits of a number, the most significant first. -/
def numeral (number : Nat) : List Char :=
  Nat.toDigits 10 number

/--
The numeral with zeros in front of it up to the given width, as it is defined
for every width.  Whether the program gives it is told by `canPad`.
-/
def paddedNumeral (width number : Nat) : List Char :=
  List.replicate (width - (numeral number).length) '0' ++ numeral number

/-- The greatest width that can be asked for while the program runs. -/
def widestPadding : Nat := UInt16.size - 1

/-- Numerals can be padded to the width while the program runs. -/
def canPad (width : Nat) : Bool :=
  width ≤ widestPadding

/-- A whole number with a minus sign when it is negative. -/
def signedNumeral : Int → List Char
  | .ofNat number => numeral number
  | .negSucc number => '-' :: numeral (number + 1)

/-- The text of a number in decimal. -/
def decimal (number : Nat) : String :=
  String.ofList (numeral number)

/-- The text of a whole number in decimal. -/
def signedDecimal (number : Int) : String :=
  String.ofList (signedNumeral number)

@[simp]
theorem numeralValue_numeral (number : Nat) :
    numeralValue (numeral number) = number :=
  Nat.ofDigitChars_toDigits (by decide) (by decide)

theorem isDigit_of_mem_numeral {letter : Char} {number : Nat}
    (member : letter ∈ numeral number) : letter.isDigit = true :=
  Nat.isDigit_of_mem_toDigits (by decide) (by decide) member

/-- One more digit behind a number, unless it is beyond a limit already. -/
def appendUpTo (limit value : Nat) (digit : Char) : Nat :=
  if limit < value then value else 10 * value + (digit.toNat - 48)

/--
The value of a run of digits if it is at most a limit, and else some number
beyond the limit; however long the run is, it never grows much greater.
-/
def numeralUpTo (limit : Nat) (digits : List Char) : Nat :=
  digits.foldl (appendUpTo limit) 0

theorem le_ofDigitChars (digits : List Char) (value : Nat) :
    value ≤ Nat.ofDigitChars 10 digits value := by
  induction digits generalizing value with
  | nil => simp [Nat.ofDigitChars]
  | cons digit rest hypothesis =>
      rw [Nat.ofDigitChars_cons]
      exact Nat.le_trans (by omega) (hypothesis _)

theorem foldl_appendUpTo_of_lt {limit value : Nat} (beyond : limit < value)
    (digits : List Char) : digits.foldl (appendUpTo limit) value = value := by
  induction digits with
  | nil => rfl
  | cons digit rest hypothesis => simp [appendUpTo, beyond, hypothesis]

theorem foldl_appendUpTo (limit : Nat) (digits : List Char) (value : Nat) :
    digits.foldl (appendUpTo limit) value ≤ limit ∧
        digits.foldl (appendUpTo limit) value =
          Nat.ofDigitChars 10 digits value ∨
      limit < digits.foldl (appendUpTo limit) value ∧
        limit < Nat.ofDigitChars 10 digits value := by
  induction digits generalizing value with
  | nil =>
      simpa [Nat.ofDigitChars_nil] using Nat.lt_or_ge limit value |>.symm
  | cons digit rest hypothesis =>
      by_cases beyond : limit < value
      · right
        rw [foldl_appendUpTo_of_lt beyond]
        exact ⟨beyond, Nat.lt_of_lt_of_le beyond (le_ofDigitChars _ _)⟩
      · rw [List.foldl_cons, Nat.ofDigitChars_cons, appendUpTo,
          if_neg beyond]
        exact hypothesis _

/-- A numeral stays within a limit exactly if its value does. -/
theorem numeralUpTo_le_iff {limit : Nat} {digits : List Char} :
    numeralUpTo limit digits ≤ limit ↔ numeralValue digits ≤ limit := by
  have split := foldl_appendUpTo limit digits 0
  unfold numeralUpTo numeralValue
  omega

/-- Within the limit, nothing of a numeral is lost. -/
theorem numeralUpTo_eq {limit : Nat} {digits : List Char}
    (small : numeralValue digits ≤ limit) :
    numeralUpTo limit digits = numeralValue digits := by
  have split := foldl_appendUpTo limit digits 0
  unfold numeralValue at small
  unfold numeralUpTo numeralValue
  omega

/--
Read an unsigned number no greater than a limit: a run of digits, with at
most one plus sign in front.
-/
def readUnsigned (limit : Nat) (text : List Char) : Option Nat :=
  let digits := match text with
    | '+' :: rest => rest
    | _ => text
  if digits ≠ [] ∧ digits.all Char.isDigit = true ∧
      numeralUpTo limit digits ≤ limit then
    some (numeralUpTo limit digits)
  else
    none

end MediaHash.Text
