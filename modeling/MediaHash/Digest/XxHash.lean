import MediaHash.Digest.Blocks

/-!
# The xxHash digests

Two non-cryptographic digests, of 32 and of 64 bits, both with seed zero.
Four accumulators take one word each of every full block.  A text shorter
than a block leaves them unused.  The bytes after the last full block are
taken in words as long as they last and then one by one, and a final
avalanche mixes the bits.
-/

namespace MediaHash.Digest

/-! ## 32 bits -/

namespace XxHash32

/-- The four accumulators. -/
structure Chain where
  a : UInt32
  b : UInt32
  c : UInt32
  d : UInt32
deriving DecidableEq, Repr

/-- The first of the five primes that mix words of 32 bits. -/
def prime1 : UInt32 := 0x9E3779B1

/-- The second of the five primes that mix words of 32 bits. -/
def prime2 : UInt32 := 0x85EBCA77

/-- The third of the five primes that mix words of 32 bits. -/
def prime3 : UInt32 := 0xC2B2AE3D

/-- The fourth of the five primes that mix words of 32 bits. -/
def prime4 : UInt32 := 0x27D4EB2F

/-- The fifth of the five primes that mix words of 32 bits. -/
def prime5 : UInt32 := 0x165667B1

/-- The accumulators before the first block. -/
def initial : Chain :=
  ⟨prime1 + prime2, prime2, 0, 0 - prime1⟩

/-- Take one word into an accumulator. -/
def round (accumulator word : UInt32) : UInt32 :=
  rotateLeft32 (accumulator + word * prime2) 13 * prime1

/-- Take one block of 16 bytes into the accumulators. -/
def compress (chain : Chain) (block : Array UInt8) : Chain :=
  ⟨round chain.a (word32LittleEndian block 0),
    round chain.b (word32LittleEndian block 4),
    round chain.c (word32LittleEndian block 8),
    round chain.d (word32LittleEndian block 12)⟩

/-- The running state of a digest. -/
abbrev State := Blocks Chain

/-- The state before any byte. -/
def start : State := .start initial

/-- Take further bytes into the digest. -/
def update (state : State) (bytes : List UInt8) : State :=
  state.absorb 16 compress bytes

/-- Join the accumulators into one word. -/
def converge (chain : Chain) : UInt32 :=
  rotateLeft32 chain.a 1 + rotateLeft32 chain.b 7 +
    rotateLeft32 chain.c 12 + rotateLeft32 chain.d 18

/-- Take a byte after the last word. -/
def takeByte (hash : UInt32) (byte : UInt8) : UInt32 :=
  rotateLeft32 (hash + byte.toUInt32 * prime5) 11 * prime1

/-- Take the bytes after the last full block, in words while they last. -/
def takeRest (hash : UInt32) : List UInt8 → UInt32
  | a :: b :: c :: d :: rest =>
      let word := word32LittleEndian #[a, b, c, d] 0
      takeRest (rotateLeft32 (hash + word * prime3) 17 * prime4) rest
  | rest => rest.foldl takeByte hash

/-- Spread every bit over the whole word. -/
def avalanche (hash : UInt32) : UInt32 :=
  let hash := (hash ^^^ hash >>> 15) * prime2
  let hash := (hash ^^^ hash >>> 13) * prime3
  hash ^^^ hash >>> 16

/-- The digest. -/
def finish (state : State) : UInt32 :=
  let opening := if state.length < 16 then prime5 else converge state.chain
  avalanche (takeRest (opening + state.length.toUInt32)
    state.pending.toList)

end XxHash32

/-! ## 64 bits -/

namespace XxHash64

/-- The four accumulators. -/
structure Chain where
  a : UInt64
  b : UInt64
  c : UInt64
  d : UInt64
deriving DecidableEq, Repr

/-- The first of the five primes that mix words of 64 bits. -/
def prime1 : UInt64 := 0x9E3779B185EBCA87

/-- The second of the five primes that mix words of 64 bits. -/
def prime2 : UInt64 := 0xC2B2AE3D27D4EB4F

/-- The third of the five primes that mix words of 64 bits. -/
def prime3 : UInt64 := 0x165667B19E3779F9

/-- The fourth of the five primes that mix words of 64 bits. -/
def prime4 : UInt64 := 0x85EBCA77C2B2AE63

/-- The fifth of the five primes that mix words of 64 bits. -/
def prime5 : UInt64 := 0x27D4EB2F165667C5

/-- The accumulators before the first block. -/
def initial : Chain :=
  ⟨prime1 + prime2, prime2, 0, 0 - prime1⟩

/-- Take one double word into an accumulator. -/
def round (accumulator word : UInt64) : UInt64 :=
  rotateLeft64 (accumulator + word * prime2) 31 * prime1

/-- Take one block of 32 bytes into the accumulators. -/
def compress (chain : Chain) (block : Array UInt8) : Chain :=
  ⟨round chain.a (word64LittleEndian block 0),
    round chain.b (word64LittleEndian block 8),
    round chain.c (word64LittleEndian block 16),
    round chain.d (word64LittleEndian block 24)⟩

/-- The running state of a digest. -/
abbrev State := Blocks Chain

/-- The state before any byte. -/
def start : State := .start initial

/-- Take further bytes into the digest. -/
def update (state : State) (bytes : List UInt8) : State :=
  state.absorb 32 compress bytes

/-- Join one more accumulator to the joined word. -/
def merge (hash accumulator : UInt64) : UInt64 :=
  (hash ^^^ round 0 accumulator) * prime1 + prime4

/-- Join the accumulators into one double word. -/
def converge (chain : Chain) : UInt64 :=
  let sum := rotateLeft64 chain.a 1 + rotateLeft64 chain.b 7 +
    rotateLeft64 chain.c 12 + rotateLeft64 chain.d 18
  merge (merge (merge (merge sum chain.a) chain.b) chain.c) chain.d

/-- Take a byte after the last word. -/
def takeByte (hash : UInt64) (byte : UInt8) : UInt64 :=
  rotateLeft64 (hash ^^^ byte.toUInt64 * prime5) 11 * prime1

/-- Take the bytes after the last double word, one word if it lasts. -/
def takeTail (hash : UInt64) : List UInt8 → UInt64
  | a :: b :: c :: d :: rest =>
      let word := (word32LittleEndian #[a, b, c, d] 0).toUInt64
      rest.foldl takeByte
        (rotateLeft64 (hash ^^^ word * prime1) 23 * prime2 + prime3)
  | rest => rest.foldl takeByte hash

/-- Take the bytes after the last full block, in double words first. -/
def takeRest (hash : UInt64) : List UInt8 → UInt64
  | a :: b :: c :: d :: e :: f :: g :: h :: rest =>
      let word := word64LittleEndian #[a, b, c, d, e, f, g, h] 0
      takeRest (rotateLeft64 (hash ^^^ round 0 word) 27 * prime1 + prime4)
        rest
  | rest => takeTail hash rest

/-- Spread every bit over the whole double word. -/
def avalanche (hash : UInt64) : UInt64 :=
  let hash := (hash ^^^ hash >>> 33) * prime2
  let hash := (hash ^^^ hash >>> 29) * prime3
  hash ^^^ hash >>> 32

/-- The digest. -/
def finish (state : State) : UInt64 :=
  let opening := if state.length < 32 then prime5 else converge state.chain
  avalanche (takeRest (opening + state.length.toUInt64)
    state.pending.toList)

end XxHash64

end MediaHash.Digest
