import MediaHash.Text.Decimal

/-!
# Binary numbers of 64 bits

A floating-point number of 64 bits keeps 53 binary digits and stays below
2^1024.  A decimal is too great for it if the nearest such number, the even
one of two, would have to be greater.
-/

namespace MediaHash.Text

/-- The number nearest to a natural number with 53 binary digits, ties to even. -/
def nearestBinary (number : Nat) : Nat :=
  let unit := Nat.pow 2 (number.log2 + 1 - 53)
  let rest := number % unit
  let below := number - rest
  if 2 * rest < unit then below
  else if unit < 2 * rest then below + unit
  else if number / unit % 2 = 0 then below
  else below + unit

/-- The first number that is beyond all binary numbers of 64 bits. -/
def binaryBound : Nat :=
  Nat.pow 2 1024

/-- The least decimal that rounds to the bound or beyond it. -/
def overflowBound : Nat :=
  binaryBound - Nat.pow 2 970

/-- A run of decimal digits with an exponent of ten is too great. -/
def overflows (digits : List Char) (exponent : Int) : Bool :=
  let digits := digits.dropWhile (· == '0')
  let size : Int := digits.length + exponent
  if digits.isEmpty ∨ size < 309 then false
  else if 309 < size then true
  else
    let whole := digits.take 309
    overflowBound ≤ numeralValue whole * Nat.pow 10 (309 - whole.length)

/-- The greatest exponent of ten of which the power is not too great. -/
def greatestPower : Int := 308

/--
A number times a power of ten is too great when it is worked out in binary
numbers: both factors are rounded, then their product.
-/
def productOverflows (factor : Nat) (exponent : Int) : Bool :=
  if factor = 0 ∨ exponent < 0 then false
  else if greatestPower < exponent then true
  else
    let power := nearestBinary (Nat.pow 10 exponent.toNat)
    binaryBound ≤ nearestBinary (nearestBinary factor * power)

end MediaHash.Text
