/-!
# UTF-16

A text is a run of 16-bit units.  A scalar value past U+FFFF takes two of
them, a high surrogate followed by a low one; a surrogate that does not
stand in such a pair makes the units unreadable.  Each unit is two bytes, in
one of two orders.
-/

namespace MediaHash.Encoding

/-- The order of the two bytes of a unit. -/
inductive ByteOrder where
  | littleEndian
  | bigEndian
deriving DecidableEq, Repr

/-- The unit that two bytes spell. -/
def ByteOrder.join : ByteOrder → UInt8 → UInt8 → UInt16
  | .littleEndian, first, second => second.toUInt16 <<< 8 ||| first.toUInt16
  | .bigEndian, first, second => first.toUInt16 <<< 8 ||| second.toUInt16

/-- The two bytes of a unit. -/
def ByteOrder.split : ByteOrder → UInt16 → List UInt8
  | .littleEndian, unit => [unit.toUInt8, (unit >>> 8).toUInt8]
  | .bigEndian, unit => [(unit >>> 8).toUInt8, unit.toUInt8]

/-- Why bytes are not UTF-16. -/
inductive Utf16Fault where
  /-- The number of bytes is odd. -/
  | truncated
  /-- A surrogate stands outside a pair. -/
  | loneSurrogate
deriving DecidableEq, Repr

/-- A unit that opens a pair. -/
def isHighSurrogate (unit : UInt16) : Bool :=
  0xD800 ≤ unit && unit ≤ 0xDBFF

/-- A unit that closes a pair. -/
def isLowSurrogate (unit : UInt16) : Bool :=
  0xDC00 ≤ unit && unit ≤ 0xDFFF

/-- The scalar value of a pair of surrogates. -/
def joinSurrogates (high low : UInt16) : Char :=
  Char.ofNat (0x10000 + (high.toNat - 0xD800) * 1024 + (low.toNat - 0xDC00))

/-- The characters that a run of units spells. -/
def readUnits : List UInt16 → Except Utf16Fault (List Char)
  | [] => .ok []
  | unit :: rest =>
    if isHighSurrogate unit then
      match rest with
      | [] => .error .loneSurrogate
      | low :: rest =>
        if isLowSurrogate low then
          (joinSurrogates unit low :: ·) <$> readUnits rest
        else .error .loneSurrogate
    else if isLowSurrogate unit then .error .loneSurrogate
    else (Char.ofNat unit.toNat :: ·) <$> readUnits rest

/-- The units that the bytes hold, none if their number is odd. -/
def unitsOf (order : ByteOrder) : List UInt8 → Option (List UInt16)
  | [] => some []
  | [_] => none
  | first :: second :: rest =>
      (order.join first second :: ·) <$> unitsOf order rest

/-- The text that the bytes spell in UTF-16. -/
def readUtf16 (order : ByteOrder) (bytes : List UInt8) :
    Except Utf16Fault String :=
  match unitsOf order bytes with
  | none => .error .truncated
  | some units => String.ofList <$> readUnits units

/-- The units of a scalar value, one or a pair. -/
def utf16Units (letter : Char) : List UInt16 :=
  let code := letter.toNat
  if code < 0x10000 then [code.toUInt16]
  else
    [(0xD800 + (code - 0x10000) / 1024).toUInt16,
      (0xDC00 + (code - 0x10000) % 1024).toUInt16]

/-- The UTF-16 form of a text. -/
def writeUtf16 (order : ByteOrder) (text : String) : List UInt8 :=
  (text.toList.flatMap utf16Units).flatMap order.split

end MediaHash.Encoding
