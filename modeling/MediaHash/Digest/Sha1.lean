import MediaHash.Digest.Blocks

/-!
# The SHA-1 digest

SHA-1 works on blocks of 64 bytes, each read as sixteen big-endian words and
stretched to eighty, and chains five words through 80 steps per block.
-/

namespace MediaHash.Digest.Sha1

/-- The five words that are chained from block to block. -/
structure Chain where
  a : UInt32
  b : UInt32
  c : UInt32
  d : UInt32
  e : UInt32
deriving DecidableEq, Repr

/-- The chain before the first block. -/
def initial : Chain :=
  ⟨0x67452301, 0xEFCDAB89, 0x98BADCFE, 0x10325476, 0xC3D2E1F0⟩

/-- Add the next word of the schedule: a rotated mix of four earlier words. -/
def stretch (words : Array UInt32) (index : Nat) : Array UInt32 :=
  let word (back : Nat) := words.getD (index - back) 0
  words.push (rotateLeft32 (word 3 ^^^ word 8 ^^^ word 14 ^^^ word 16) 1)

/-- The eighty words of a block's schedule. -/
def schedule (block : Array UInt8) : Array UInt32 :=
  let words := (Array.range 16).map fun index =>
    word32BigEndian block (4 * index)
  (List.range' 16 64).foldl stretch words

/-- The round function of a step and the constant added with it. -/
def choose (step : Nat) (b c d : UInt32) : UInt32 × UInt32 :=
  if step < 20 then ((b &&& c) ||| (~~~b &&& d), 0x5A827999)
  else if step < 40 then (b ^^^ c ^^^ d, 0x6ED9EBA1)
  else if step < 60 then ((b &&& c) ||| (b &&& d) ||| (c &&& d), 0x8F1BBCDC)
  else (b ^^^ c ^^^ d, 0xCA62C1D6)

/-- One of the 80 steps on a block. -/
def mix (words : Array UInt32) (chain : Chain) (step : Nat) : Chain :=
  let (mixed, constant) := choose step chain.b chain.c chain.d
  let sum := rotateLeft32 chain.a 5 + mixed + chain.e + constant +
    words.getD step 0
  ⟨sum, chain.a, rotateLeft32 chain.b 30, chain.c, chain.d⟩

/-- Take one block of 64 bytes into the chain. -/
def compress (chain : Chain) (block : Array UInt8) : Chain :=
  let mixed := (List.range 80).foldl (mix (schedule block)) chain
  ⟨chain.a + mixed.a, chain.b + mixed.b, chain.c + mixed.c,
    chain.d + mixed.d, chain.e + mixed.e⟩

/-- The running state of a digest. -/
abbrev State := Blocks Chain

/-- The state before any byte. -/
def start : State := .start initial

/-- Take further bytes into the digest. -/
def update (state : State) (bytes : List UInt8) : State :=
  state.absorb 64 compress bytes

/-- The twenty bytes of the digest. -/
def finish (state : State) : List UInt8 :=
  let padded := update state
    (lengthPadding state.length ++ (bytes64 (8 * state.length)).reverse)
  let big (word : UInt32) := (bytes32 word).reverse
  big padded.chain.a ++ big padded.chain.b ++ big padded.chain.c ++
    big padded.chain.d ++ big padded.chain.e

end MediaHash.Digest.Sha1
