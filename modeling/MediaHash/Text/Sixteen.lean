/-!
# Digits in base sixteen

Ten decimal digits and the letters A to F, read in either letter case and
written small.  They also serve as the digits of smaller bases.
-/

namespace MediaHash.Text

/-- The value of a digit in base sixteen, in either letter case. -/
def hexValue? (letter : Char) : Option Nat :=
  if letter.isDigit then some (letter.toNat - 48)
  else if 'a' ≤ letter ∧ letter ≤ 'f' then some (letter.toNat - 87)
  else if 'A' ≤ letter ∧ letter ≤ 'F' then some (letter.toNat - 55)
  else none

/-- A digit in base sixteen, in either letter case. -/
def isHexDigit (letter : Char) : Bool :=
  (hexValue? letter).isSome

/-- The digit for a value below sixteen, in small letters. -/
def hexDigit (value : Nat) : Char :=
  if value < 10 then Char.ofNat (48 + value) else Char.ofNat (87 + value)

/-- Reading a written digit gives its value back. -/
theorem hexValue?_hexDigit {value : Nat} (small : value < 16) :
    hexValue? (hexDigit value) = some value := by
  revert value
  decide

/-- The value of digits in a base, other characters counting nothing. -/
def valueIn (base : Nat) (digits : List Char) : Nat :=
  digits.foldl
    (fun value digit => base * value + (hexValue? digit).getD 0) 0

/--
The value of digits in a base if it is at most a limit, and else some number
beyond the limit; it never grows much greater.
-/
def valueUpTo (base limit : Nat) (digits : List Char) : Nat :=
  digits.foldl
    (fun value digit =>
      if limit < value then value
      else base * value + (hexValue? digit).getD 0) 0

end MediaHash.Text
