import MediaHash.Sequence.Token

/-!
# Sequences of file numbers

A sequence is written as tokens separated by commas.  The tokens are kept in
the order in which they are written; the set of their numbers is kept beside
them as canonical runs, and every question about the set is answered from
the runs.  A sequence may cover billions of numbers, so its members are never
listed unless they are asked for.

A sequence is written token by token.  If one of the tokens is too wide to be
padded, the program breaks off instead.
-/

namespace MediaHash

/-- The tokens of a sequence and the runs that they cover. -/
structure Sequence where
  tokens : List Token
  runs : List Run
deriving DecidableEq, Repr

namespace Sequence

/-- The sequence that the tokens describe. -/
def ofTokens (tokens : List Token) : Sequence :=
  ⟨tokens, Run.merge (tokens.map Token.run)⟩

/-- Read the tokens between the commas, stopping at the first fault. -/
def readTokens : List (List Char) → Except SequenceFault (List Token)
  | [] => .ok []
  | written :: rest => do
      let token ← Token.read written
      let tokens ← readTokens rest
      .ok (token :: tokens)

/-- Read a sequence. -/
def read (text : String) : Except SequenceFault Sequence :=
  if Text.trimBlanks text.toList = [] then
    .error (.invalidSyntax text "empty sequence specification")
  else do
    let tokens ← readTokens (Text.pieces ',' text.toList)
    .ok (ofTokens tokens)

/-! ## Questions about the set of numbers -/

/-- Whether a number is in the sequence. -/
def contains (sequence : Sequence) (number : Nat) : Bool :=
  sequence.runs.any fun run => run.contains number

/-- The members, ascending. -/
def members (sequence : Sequence) : List Nat :=
  Run.membersOf sequence.runs

/-- The first members, no more than the limit. -/
def takeMembers (sequence : Sequence) (limit : Nat) : List Nat :=
  Run.takeMembers limit sequence.runs

/--
How many numbers the sequence holds.  Differences and sums are taken in words
of 64 bits, so that runs whose ends are out of order wrap around.
-/
def size (sequence : Sequence) : Nat :=
  sequence.runs.foldr
    (fun run sum => (UInt64.size + run.last + 1 - run.first + sum) %
      UInt64.size) 0

/-- The sequence holds no number. -/
def isEmpty (sequence : Sequence) : Bool :=
  sequence.runs.isEmpty

/-- The smallest number. -/
def first? (sequence : Sequence) : Option Nat :=
  sequence.runs.head?.map Run.first

/-- The greatest number. -/
def last? (sequence : Sequence) : Option Nat :=
  sequence.runs.getLast?.map Run.last

/-- Some number between the smallest and the greatest is left out. -/
def hasGap (sequence : Sequence) : Bool :=
  1 < sequence.runs.length

/-- The smallest number that is left out, as a word of 32 bits. -/
def firstMissing? (sequence : Sequence) : Option Nat :=
  if sequence.hasGap then
    sequence.runs.head?.map fun run => (run.last + 1) % UInt32.size
  else
    none

/-- The fault of a sequence with a gap. -/
def gap? (sequence : Sequence) : Option SequenceFault :=
  match sequence.first?, sequence.last?, sequence.firstMissing? with
  | some first, some last, some missing => some (.gap first last missing)
  | _, _, _ => none

/-- Read a sequence that must not leave out any number. -/
def readContiguous (text : String) : Except SequenceFault Sequence := do
  let sequence ← read text
  match sequence.gap? with
  | some fault => .error fault
  | none => .ok sequence

/-- The written form as if every token could be padded, the tokens in order. -/
def text (sequence : Sequence) : String :=
  Text.joinWith ", "
    (sequence.tokens.map fun token => String.ofList token.text)

/-- The written form; none where writing it breaks off the program. -/
def text? (sequence : Sequence) : Option String :=
  if sequence.tokens.all Token.canPad then some sequence.text else none

end Sequence

end MediaHash
