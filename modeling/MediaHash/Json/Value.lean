import MediaHash.Text.Decimal
import MediaHash.Text.Sixteen

/-!
# JSON values and their text

A value is written in one of two ways: on one line without spaces, or spread
over lines with two spaces of indentation for each level.
-/

namespace MediaHash

/-- A JSON value. -/
inductive Json where
  | null
  | bool (value : Bool)
  /-- A whole number from -2^63 to 2^64 - 1, written without point or exponent. -/
  | int (value : Int)
  /-- Any other number, as it is written. -/
  | real (written : String)
  | string (value : String)
  | array (items : List Json)
  /-- Members in the order in which they are written, repeats included. -/
  | object (members : List (String × Json))
deriving Repr, Inhabited

namespace Json

/-! ## Strings -/

/-- A character as it is written inside quotes. -/
def escape (letter : Char) : List Char :=
  if letter = '\x22' then ['\\', '\x22']
  else if letter = '\\' then ['\\', '\\']
  else if letter = '\n' then ['\\', 'n']
  else if letter = '\r' then ['\\', 'r']
  else if letter = '\t' then ['\\', 't']
  else if letter = '\x08' then ['\\', 'b']
  else if letter = '\x0C' then ['\\', 'f']
  else if letter.toNat < 0x20 then
    ['\\', 'u', '0', '0', Text.hexDigit (letter.toNat / 16),
      Text.hexDigit (letter.toNat % 16)]
  else [letter]

/-- A text in quotes. -/
def quoted (text : String) : List Char :=
  '\x22' :: text.toList.flatMap escape ++ ['\x22']

/-! ## One line -/

mutual

/-- The text of a value on one line. -/
def compactChars : Json → List Char
  | .null => "null".toList
  | .bool true => "true".toList
  | .bool false => "false".toList
  | .int value => Text.signedNumeral value
  | .real written => written.toList
  | .string value => quoted value
  | .array items => '[' :: compactItems items ++ [']']
  | .object members => '{' :: compactMembers members ++ ['}']

/-- Items with commas between them. -/
def compactItems : List Json → List Char
  | [] => []
  | [item] => compactChars item
  | item :: rest => compactChars item ++ ',' :: compactItems rest

/-- Members with commas between them. -/
def compactMembers : List (String × Json) → List Char
  | [] => []
  | [(key, value)] => quoted key ++ ':' :: compactChars value
  | (key, value) :: rest =>
      quoted key ++ ':' :: compactChars value ++ ',' :: compactMembers rest

end

/-- The text of a value on one line. -/
def compact (value : Json) : String :=
  String.ofList value.compactChars

/-! ## Several lines -/

/-- A line break and the indentation of a level. -/
def lineBreak (level : Nat) : List Char :=
  '\n' :: List.replicate (2 * level) ' '

mutual

/-- The text of a value spread over lines, at a level. -/
def prettyChars (level : Nat) : Json → List Char
  | .array [] => ['[', ']']
  | .array items =>
      '[' :: prettyItems (level + 1) items ++ lineBreak level ++ [']']
  | .object [] => ['{', '}']
  | .object members =>
      '{' :: prettyMembers (level + 1) members ++ lineBreak level ++ ['}']
  | value => compactChars value

/-- Items, each on a line of its own. -/
def prettyItems (level : Nat) : List Json → List Char
  | [] => []
  | [item] => lineBreak level ++ prettyChars level item
  | item :: rest =>
      lineBreak level ++ prettyChars level item ++
        ',' :: prettyItems level rest

/-- Members, each on a line of its own. -/
def prettyMembers (level : Nat) : List (String × Json) → List Char
  | [] => []
  | [(key, value)] =>
      lineBreak level ++ quoted key ++ ':' :: ' ' :: prettyChars level value
  | (key, value) :: rest =>
      lineBreak level ++ quoted key ++ ':' :: ' ' :: prettyChars level value ++
        ',' :: prettyMembers level rest

end

/-- The text of a value spread over lines. -/
def pretty (value : Json) : String :=
  String.ofList (value.prettyChars 0)

/-! ## Building values -/

/-- A natural number as a value. -/
def nat (value : Nat) : Json :=
  .int value

/-- A text or nothing as a value. -/
def ofString? : Option String → Json
  | some text => .string text
  | none => .null

end Json

end MediaHash
