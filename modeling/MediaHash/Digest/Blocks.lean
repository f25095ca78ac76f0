/-!
# Digests that work block by block

A digest of this kind keeps a chained value, the bytes that do not fill a
block yet, and the number of bytes taken so far.  Bytes are taken one at a
time, so taking one run of bytes and then another is the same as taking both
joined together.
-/

namespace MediaHash.Digest

/-- The running state of a digest over blocks of one size. -/
structure Blocks (Chain : Type) where
  /-- The value chained through the full blocks. -/
  chain : Chain
  /-- The bytes after the last full block. -/
  pending : Array UInt8
  /-- The number of bytes taken so far. -/
  length : Nat

namespace Blocks

variable {Chain : Type}

/-- The state before any byte. -/
def start (initial : Chain) : Blocks Chain :=
  ⟨initial, #[], 0⟩

/-- Take one byte, and the block that it fills if it fills one. -/
def push (blockSize : Nat) (compress : Chain → Array UInt8 → Chain)
    (state : Blocks Chain) (byte : UInt8) : Blocks Chain :=
  let ⟨chain, pending, length⟩ := state
  let pending := pending.push byte
  if pending.size = blockSize then
    ⟨compress chain pending, #[], length + 1⟩
  else
    ⟨chain, pending, length + 1⟩

/-- Take a run of bytes. -/
def absorb (blockSize : Nat) (compress : Chain → Array UInt8 → Chain)
    (state : Blocks Chain) (bytes : List UInt8) : Blocks Chain :=
  bytes.foldl (push blockSize compress) state

theorem absorb_append (blockSize : Nat)
    (compress : Chain → Array UInt8 → Chain) (state : Blocks Chain)
    (first second : List UInt8) :
    state.absorb blockSize compress (first ++ second) =
      (state.absorb blockSize compress first).absorb blockSize compress
        second := by
  simp [absorb, List.foldl_append]

end Blocks

/-! ## Words and bytes -/

/-- Rotate a word of 32 bits to the left. -/
def rotateLeft32 (word count : UInt32) : UInt32 :=
  word <<< count ||| word >>> (32 - count)

/-- Rotate a word of 64 bits to the left. -/
def rotateLeft64 (word count : UInt64) : UInt64 :=
  word <<< count ||| word >>> (64 - count)

/-- The byte at a place of a block. -/
def byteAt (block : Array UInt8) (place : Nat) : UInt8 :=
  block.getD place 0

/-- The word whose lowest byte stands at the given place. -/
def word32LittleEndian (block : Array UInt8) (place : Nat) : UInt32 :=
  (byteAt block place).toUInt32 |||
    (byteAt block (place + 1)).toUInt32 <<< 8 |||
    (byteAt block (place + 2)).toUInt32 <<< 16 |||
    (byteAt block (place + 3)).toUInt32 <<< 24

/-- The word whose highest byte stands at the given place. -/
def word32BigEndian (block : Array UInt8) (place : Nat) : UInt32 :=
  (byteAt block place).toUInt32 <<< 24 |||
    (byteAt block (place + 1)).toUInt32 <<< 16 |||
    (byteAt block (place + 2)).toUInt32 <<< 8 |||
    (byteAt block (place + 3)).toUInt32

/-- The double word whose lowest byte stands at the given place. -/
def word64LittleEndian (block : Array UInt8) (place : Nat) : UInt64 :=
  (word32LittleEndian block place).toUInt64 |||
    (word32LittleEndian block (place + 4)).toUInt64 <<< 32

/-- The four bytes of a word, the lowest first. -/
def bytes32 (word : UInt32) : List UInt8 :=
  [word.toUInt8, (word >>> 8).toUInt8, (word >>> 16).toUInt8,
    (word >>> 24).toUInt8]

/-- The eight bytes of a number below 2^64, the lowest first. -/
def bytes64 (number : Nat) : List UInt8 :=
  let word := number.toUInt64
  bytes32 word.toUInt32 ++ bytes32 (word >>> 32).toUInt32

/--
The bytes that end a text of the given length: one byte 80 and as many zeros
as leave room for eight more bytes in the last block of 64.
-/
def lengthPadding (length : Nat) : List UInt8 :=
  0x80 :: List.replicate ((119 - length % 64) % 64) 0

end MediaHash.Digest
