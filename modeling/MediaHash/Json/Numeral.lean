import MediaHash.Text.Binary

/-!
# Numerals of JSON

A numeral has digits, and may have a minus sign in front, a point with
digits, and an exponent.  It spells a whole number if it has neither point
nor exponent and fits 64 bits.  The size of any other is worked out from the
digits that 64 bits can hold: those before the point that do not fit count as
zeros, and those behind it that do not fit count for nothing.
-/

namespace MediaHash.Json

/-- A number as it is written. -/
structure Numeral where
  negative : Bool
  /-- The digits before the point. -/
  whole : List Char
  /-- The digits after the point, none without a point. -/
  fraction : List Char
  /-- The exponent, if there is one: whether it is negative, and its digits. -/
  exponent : Option (Bool × List Char)
deriving DecidableEq, Repr

namespace Numeral

/-! ## Reading -/

/-- The digits at the front, at least one, and what follows them. -/
def takeDigits (input : List Char) : Option (List Char × List Char) :=
  let digits := input.takeWhile Char.isDigit
  if digits.isEmpty then none
  else some (digits, input.dropWhile Char.isDigit)

/-- The digits after a point, none without a point. -/
def takeFraction : List Char → Option (List Char × List Char)
  | '.' :: rest => takeDigits rest
  | rest => some ([], rest)

/-- The sign and the digits that end a numeral behind the mark of an exponent. -/
def takeSigned (input : List Char) : Option (Bool × List Char) := do
  let (negative, digits) := match input with
    | '-' :: digits => (true, digits)
    | '+' :: digits => (false, digits)
    | digits => (false, digits)
  let (digits, rest) ← takeDigits digits
  if rest.isEmpty then some (negative, digits) else none

/-- The exponent that ends a numeral, if there is one. -/
def takeExponent : List Char → Option (Option (Bool × List Char))
  | [] => some none
  | 'e' :: rest => some <$> takeSigned rest
  | 'E' :: rest => some <$> takeSigned rest
  | _ => none

/-- The numeral that a run of characters is; no zero stands before a digit. -/
def ofChars? (written : List Char) : Option Numeral := do
  let (negative, unsigned) := match written with
    | '-' :: rest => (true, rest)
    | rest => (false, rest)
  let (whole, rest) ← takeDigits unsigned
  let (fraction, ending) ← takeFraction rest
  let exponent ← takeExponent ending
  if whole.head? = some '0' ∧ whole ≠ ['0'] then none
  else some ⟨negative, whole, fraction, exponent⟩

/-! ## Value -/

/--
Put digits behind a number as long as 64 bits can hold it: the number that
comes of it, and the digits that are left.
-/
def append (number : Nat) : List Char → Nat × List Char
  | [] => (number, [])
  | digit :: rest =>
      let longer := 10 * number + (digit.toNat - 48)
      if longer < UInt64.size then append longer rest
      else (number, digit :: rest)

/-- The greatest magnitude of a whole number with or without a minus sign. -/
def wholeLimit (negative : Bool) : Nat :=
  if negative then 9223372036854775808 else UInt64.size - 1

/-- The whole number that a numeral spells; minus zero is none. -/
def whole? (numeral : Numeral) : Option Int :=
  match numeral.fraction, numeral.exponent, append 0 numeral.whole with
  | [], none, (value, []) =>
      if value ≤ wholeLimit numeral.negative ∧
          ¬ (numeral.negative = true ∧ value = 0) then
        some (if numeral.negative then -(value : Int) else value)
      else none
  | _, _, _ => none

/-- A number beyond every exponent that matters. -/
def exponentLimit : Nat := 4294967296

/-- The exponent of ten that is written, cut off where it is beyond use. -/
def writtenExponent (numeral : Numeral) : Int :=
  match numeral.exponent with
  | none => 0
  | some (negative, digits) =>
      let size : Int := Text.numeralUpTo exponentLimit digits
      if negative then -size else size

/-- No binary number of 64 bits is great enough for a numeral. -/
def overflows (numeral : Numeral) : Bool :=
  let (number, left) := append 0 numeral.whole
  let (number, leftOfFraction) := append number numeral.fraction
  let taken : Int := numeral.fraction.length - leftOfFraction.length
  Text.productOverflows number
    (numeral.writtenExponent + left.length - taken)

end Numeral

end MediaHash.Json
