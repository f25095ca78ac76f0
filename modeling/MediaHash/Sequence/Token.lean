import MediaHash.Fault
import MediaHash.Sequence.Run
import MediaHash.Text.Blank
import MediaHash.Text.Split

/-!
# Tokens of a sequence

A token is a number or an inclusive range of numbers.  The number of digits
of its lower bound, leading zeros included, is the width to which the
numbers of the token are padded.  Numbers are below 2^32.  Any number of
zeros is read, but a token whose width is beyond padding cannot be written.
-/

namespace MediaHash

/-- The numbers from `low` to `high`, padded to a width. -/
structure Token where
  low : Nat
  high : Nat
  /-- The number of digits of the lower bound as it is written. -/
  width : Nat
deriving DecidableEq, Repr

namespace Token

/-- The greatest number that a sequence may hold. -/
def largest : Nat := UInt32.size - 1

/-- The numbers of the token. -/
def run (token : Token) : Run :=
  ⟨token.low, token.high⟩

/-- The token holds one number only. -/
def isSingle (token : Token) : Bool :=
  token.low == token.high

/--
The written form: one padded number, or two with a dash between them.  The
program gives it if the token can be padded.
-/
def text (token : Token) : List Char :=
  if token.isSingle then
    Text.paddedNumeral token.width token.low
  else
    Text.paddedNumeral token.width token.low ++
      '-' :: Text.paddedNumeral token.width token.high

/-- The numbers of the token can be padded to its width. -/
def canPad (token : Token) : Bool :=
  Text.canPad token.width

/-- A fault of syntax at the given token. -/
def invalid (token reason : List Char) : SequenceFault :=
  .invalidSyntax (String.ofList token) (String.ofList reason)

/-- Read a number of a token, blanks around it allowed. -/
def readNumber (token written : List Char) : Except SequenceFault Nat :=
  let digits := Text.trimBlanks written
  if digits = [] then
    .error (invalid token "missing number".toList)
  else if ¬ digits.all Char.isDigit then
    .error (invalid token
      ("'".toList ++ digits ++ "' is not an unsigned integer".toList))
  else if largest < Text.numeralUpTo largest digits then
    .error (invalid token ("'".toList ++ digits ++ "' is out of range".toList))
  else
    .ok (Text.numeralUpTo largest digits)

/-- Read a range whose two bounds are given, in order. -/
def readRange (token low high : List Char) : Except SequenceFault Token := do
  let lowValue ← readNumber token low
  let highValue ← readNumber token high
  if highValue < lowValue then
    .error (invalid token
      ("inverted range ".toList ++ Text.numeral lowValue ++ " > ".toList ++
        Text.numeral highValue))
  else
    .ok ⟨lowValue, highValue, (Text.trimBlanks low).length⟩

/-- Read one token, blanks around it and around its bounds allowed. -/
def read (written : List Char) : Except SequenceFault Token :=
  let token := Text.trimBlanks written
  if token = [] then
    .error (invalid written "empty token".toList)
  else
    match Text.splitFirst '-' token with
    | some (low, high) => readRange token low high
    | none => do
        let value ← readNumber token token
        .ok ⟨value, value, token.length⟩

end Token

end MediaHash
