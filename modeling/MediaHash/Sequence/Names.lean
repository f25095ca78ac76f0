import MediaHash.Sequence.Basic

/-!
# Names of the files of a sequence

A pattern names a file for each number of a sequence: every `{N}` in it
stands for the number, padded to the width of the token that holds it.  A
number that several tokens hold is named once, by the first of them.  The
names follow the order of the tokens and, within a token, of the numbers.

Names are made one by one, as they are asked for.  The program breaks off at
the first of them whose number cannot be padded, whatever the pattern is.
-/

namespace MediaHash

/-- Put a text in the place of every `{N}`, from left to right. -/
def fillPattern (filling : List Char) : List Char → List Char
  | [] => []
  | '{' :: 'N' :: '}' :: rest => filling ++ fillPattern filling rest
  | letter :: rest => letter :: fillPattern filling rest

/-- Numbers that a token is the first to hold, and the token's width. -/
structure Stretch where
  width : Nat
  run : Run
deriving DecidableEq, Repr

namespace Stretch

/-- The name of one number of the stretch, as if it could be padded. -/
def name (pattern : String) (stretch : Stretch) (number : Nat) : String :=
  String.ofList
    (fillPattern (Text.paddedNumeral stretch.width number) pattern.toList)

/-- The names of all numbers of the stretch, as if they could be padded. -/
def names (pattern : String) (stretch : Stretch) : List String :=
  stretch.run.members.map (stretch.name pattern)

/-- The numbers of the stretch can be padded to its width. -/
def canPad (stretch : Stretch) : Bool :=
  Text.canPad stretch.width

/-- The stretches of tokens that come after other tokens. -/
def ofTokens (earlier : List Token) : List Token → List Stretch
  | [] => []
  | token :: rest =>
      (Run.uncovered token.run (Run.merge (earlier.map Token.run))).map
          (Stretch.mk token.width) ++
        ofTokens (earlier ++ [token]) rest

/-- The first names of the stretches, no more than the limit. -/
def takeNames (pattern : String) (limit : Nat) :
    List Stretch → List String
  | [] => []
  | stretch :: rest =>
      if limit = 0 then []
      else
        (List.range' stretch.run.first (min limit stretch.run.count)).map
            (stretch.name pattern) ++
          takeNames pattern (limit - stretch.run.count) rest

/-- The first numbers of the stretches, no more than the limit, can be padded. -/
def canTake (limit : Nat) : List Stretch → Bool
  | [] => true
  | stretch :: rest =>
      limit = 0 ||
        stretch.canPad && canTake (limit - stretch.run.count) rest

end Stretch

namespace Sequence

/-- The stretches of a sequence, token by token. -/
def stretches (sequence : Sequence) : List Stretch :=
  Stretch.ofTokens [] sequence.tokens

/-- The names of all members, as if all of them could be padded. -/
def names (sequence : Sequence) (pattern : String) : List String :=
  sequence.stretches.flatMap (Stretch.names pattern)

/--
The first names, no more than the limit, as if all numbers could be padded.
-/
def takeNames (sequence : Sequence) (pattern : String) (limit : Nat) :
    List String :=
  Stretch.takeNames pattern limit sequence.stretches

/-- The names of all members; none where making one breaks off the program. -/
def names? (sequence : Sequence) (pattern : String) :
    Option (List String) :=
  if sequence.stretches.all Stretch.canPad then
    some (sequence.names pattern)
  else
    none

/--
The first names, no more than the limit; none where making one of them breaks
off the program.
-/
def takeNames? (sequence : Sequence) (pattern : String) (limit : Nat) :
    Option (List String) :=
  if Stretch.canTake limit sequence.stretches then
    some (sequence.takeNames pattern limit)
  else
    none

end Sequence

theorem Stretch.takeNames_eq_take (pattern : String) (limit : Nat)
    (stretches : List Stretch) :
    Stretch.takeNames pattern limit stretches =
      (stretches.flatMap (Stretch.names pattern)).take limit := by
  induction stretches generalizing limit with
  | nil => simp [Stretch.takeNames]
  | cons stretch rest ih =>
      by_cases zero : limit = 0
      · simp [Stretch.takeNames, zero]
      · simp only [Stretch.takeNames, zero, if_false, ih,
          Run.range'_min_count,
          List.flatMap_cons, List.take_append, Stretch.names,
          List.length_map, Run.length_members, List.map_take]

end MediaHash
