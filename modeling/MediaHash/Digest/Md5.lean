import MediaHash.Digest.Blocks

/-!
# The MD5 digest

MD5 works on blocks of 64 bytes, each read as sixteen little-endian words,
and chains four words through 64 steps per block.
-/

namespace MediaHash.Digest.Md5

/-- The four words that are chained from block to block. -/
structure Chain where
  a : UInt32
  b : UInt32
  c : UInt32
  d : UInt32
deriving DecidableEq, Repr

/-- The chain before the first block. -/
def initial : Chain :=
  ⟨0x67452301, 0xefcdab89, 0x98badcfe, 0x10325476⟩

/-- The constant of each step: the first 32 bits of the fraction of |sin|. -/
def sines : Array UInt32 := #[
    0xd76aa478, 0xe8c7b756, 0x242070db, 0xc1bdceee,
    0xf57c0faf, 0x4787c62a, 0xa8304613, 0xfd469501,
    0x698098d8, 0x8b44f7af, 0xffff5bb1, 0x895cd7be,
    0x6b901122, 0xfd987193, 0xa679438e, 0x49b40821,
    0xf61e2562, 0xc040b340, 0x265e5a51, 0xe9b6c7aa,
    0xd62f105d, 0x02441453, 0xd8a1e681, 0xe7d3fbc8,
    0x21e1cde6, 0xc33707d6, 0xf4d50d87, 0x455a14ed,
    0xa9e3e905, 0xfcefa3f8, 0x676f02d9, 0x8d2a4c8a,
    0xfffa3942, 0x8771f681, 0x6d9d6122, 0xfde5380c,
    0xa4beea44, 0x4bdecfa9, 0xf6bb4b60, 0xbebfbc70,
    0x289b7ec6, 0xeaa127fa, 0xd4ef3085, 0x04881d05,
    0xd9d4d039, 0xe6db99e5, 0x1fa27cf8, 0xc4ac5665,
    0xf4292244, 0x432aff97, 0xab9423a7, 0xfc93a039,
    0x655b59c3, 0x8f0ccc92, 0xffeff47d, 0x85845dd1,
    0x6fa87e4f, 0xfe2ce6e0, 0xa3014314, 0x4e0811a1,
    0xf7537e82, 0xbd3af235, 0x2ad7d2bb, 0xeb86d391]

/-- The rotation of each step, in four rounds of sixteen steps. -/
def rotations : Array UInt32 := #[
    7, 12, 17, 22, 7, 12, 17, 22, 7, 12, 17, 22, 7, 12, 17, 22,
    5, 9, 14, 20, 5, 9, 14, 20, 5, 9, 14, 20, 5, 9, 14, 20,
    4, 11, 16, 23, 4, 11, 16, 23, 4, 11, 16, 23, 4, 11, 16, 23,
    6, 10, 15, 21, 6, 10, 15, 21, 6, 10, 15, 21, 6, 10, 15, 21]

/-- The round function of a step and the word of the block that it takes. -/
def choose (step : Nat) (b c d : UInt32) : UInt32 × Nat :=
  if step < 16 then ((b &&& c) ||| (~~~b &&& d), step)
  else if step < 32 then ((d &&& b) ||| (~~~d &&& c), (5 * step + 1) % 16)
  else if step < 48 then (b ^^^ c ^^^ d, (3 * step + 5) % 16)
  else (c ^^^ (b ||| ~~~d), 7 * step % 16)

/-- One of the 64 steps on a block. -/
def mix (words : Array UInt32) (chain : Chain) (step : Nat) : Chain :=
  let (mixed, index) := choose step chain.b chain.c chain.d
  let sum := chain.a + mixed + sines.getD step 0 + words.getD index 0
  ⟨chain.d, chain.b + rotateLeft32 sum (rotations.getD step 0), chain.b,
    chain.c⟩

/-- Take one block of 64 bytes into the chain. -/
def compress (chain : Chain) (block : Array UInt8) : Chain :=
  let words := (Array.range 16).map fun index =>
    word32LittleEndian block (4 * index)
  let mixed := (List.range 64).foldl (mix words) chain
  ⟨chain.a + mixed.a, chain.b + mixed.b, chain.c + mixed.c,
    chain.d + mixed.d⟩

/-- The running state of a digest. -/
abbrev State := Blocks Chain

/-- The state before any byte. -/
def start : State := .start initial

/-- Take further bytes into the digest. -/
def update (state : State) (bytes : List UInt8) : State :=
  state.absorb 64 compress bytes

/-- The sixteen bytes of the digest. -/
def finish (state : State) : List UInt8 :=
  let padded := update state
    (lengthPadding state.length ++ (bytes64 (8 * state.length)))
  bytes32 padded.chain.a ++ bytes32 padded.chain.b ++
    bytes32 padded.chain.c ++ bytes32 padded.chain.d

end MediaHash.Digest.Md5
