/-!
# UTF-8

Reading UTF-8 stops at the first bytes that are not the shortest form of a
scalar value.  The failure says where the faulty bytes begin and how many of
them belong together; bytes that break off at the end of the input are a
failure of their own.
-/

namespace MediaHash.Encoding

/-- Why bytes are not UTF-8. -/
inductive Utf8Fault where
  /-- `length` bytes from `index` on do not start a scalar value. -/
  | invalid (length index : Nat)
  /-- The input ends within the scalar value that starts at `index`. -/
  | incomplete (index : Nat)
deriving DecidableEq, Repr

/-- A description of the fault. -/
def Utf8Fault.message : Utf8Fault → String
  | .invalid length index =>
      s!"invalid utf-8 sequence of {length} bytes from index {index}"
  | .incomplete index =>
      s!"incomplete utf-8 byte sequence from index {index}"

/-- A byte of the form 10xxxxxx. -/
def isContinuation (byte : UInt8) : Bool :=
  0x80 ≤ byte && byte ≤ 0xBF

/--
The bytes that may follow the first byte of a form of three bytes: those
that would give an overlong form or a surrogate are left out.
-/
def isSecondOfThree (first second : UInt8) : Bool :=
  if first == 0xE0 then 0xA0 ≤ second && second ≤ 0xBF
  else if first == 0xED then 0x80 ≤ second && second ≤ 0x9F
  else isContinuation second

/--
The bytes that may follow the first byte of a form of four bytes: those that
would give an overlong form or a value past U+10FFFF are left out.
-/
def isSecondOfFour (first second : UInt8) : Bool :=
  if first == 0xF0 then 0x90 ≤ second && second ≤ 0xBF
  else if first == 0xF4 then 0x80 ≤ second && second ≤ 0x8F
  else isContinuation second

/-- The scalar value of a form of two bytes. -/
def joinTwo (first second : UInt8) : Char :=
  Char.ofNat ((first.toNat - 0xC0) * 64 + (second.toNat - 0x80))

/-- The scalar value of a form of three bytes. -/
def joinThree (first second third : UInt8) : Char :=
  Char.ofNat ((first.toNat - 0xE0) * 4096 + (second.toNat - 0x80) * 64 +
    (third.toNat - 0x80))

/-- The scalar value of a form of four bytes. -/
def joinFour (first second third fourth : UInt8) : Char :=
  Char.ofNat ((first.toNat - 0xF0) * 262144 + (second.toNat - 0x80) * 4096 +
    (third.toNat - 0x80) * 64 + (fourth.toNat - 0x80))

/-- Read UTF-8, the first of the bytes standing at the given index. -/
def readUtf8From (index : Nat) :
    List UInt8 → Except Utf8Fault (List Char)
  | [] => .ok []
  | first :: rest =>
    if first < 0x80 then
      (Char.ofNat first.toNat :: ·) <$> readUtf8From (index + 1) rest
    else if 0xC2 ≤ first && first ≤ 0xDF then
      match rest with
      | [] => .error (.incomplete index)
      | second :: rest =>
        if isContinuation second then
          (joinTwo first second :: ·) <$> readUtf8From (index + 2) rest
        else .error (.invalid 1 index)
    else if 0xE0 ≤ first && first ≤ 0xEF then
      match rest with
      | [] => .error (.incomplete index)
      | second :: rest =>
        if isSecondOfThree first second then
          match rest with
          | [] => .error (.incomplete index)
          | third :: rest =>
            if isContinuation third then
              (joinThree first second third :: ·) <$>
                readUtf8From (index + 3) rest
            else .error (.invalid 2 index)
        else .error (.invalid 1 index)
    else if 0xF0 ≤ first && first ≤ 0xF4 then
      match rest with
      | [] => .error (.incomplete index)
      | second :: rest =>
        if isSecondOfFour first second then
          match rest with
          | [] => .error (.incomplete index)
          | third :: rest =>
            if isContinuation third then
              match rest with
              | [] => .error (.incomplete index)
              | fourth :: rest =>
                if isContinuation fourth then
                  (joinFour first second third fourth :: ·) <$>
                    readUtf8From (index + 4) rest
                else .error (.invalid 3 index)
            else .error (.invalid 2 index)
        else .error (.invalid 1 index)
    else .error (.invalid 1 index)

/-- The text that the bytes spell in UTF-8. -/
def readUtf8 (bytes : List UInt8) : Except Utf8Fault String :=
  String.ofList <$> readUtf8From 0 bytes

/-- The UTF-8 form of a scalar value, one to four bytes long. -/
def utf8Bytes (letter : Char) : List UInt8 :=
  let code := letter.toNat
  if code < 0x80 then [code.toUInt8]
  else if code < 0x800 then
    [(0xC0 + code / 64).toUInt8, (0x80 + code % 64).toUInt8]
  else if code < 0x10000 then
    [(0xE0 + code / 4096).toUInt8, (0x80 + code / 64 % 64).toUInt8,
      (0x80 + code % 64).toUInt8]
  else
    [(0xF0 + code / 262144).toUInt8, (0x80 + code / 4096 % 64).toUInt8,
      (0x80 + code / 64 % 64).toUInt8, (0x80 + code % 64).toUInt8]

/-- The UTF-8 form of a text. -/
def writeUtf8 (text : String) : List UInt8 :=
  text.toList.flatMap utf8Bytes

end MediaHash.Encoding
