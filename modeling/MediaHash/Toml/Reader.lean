import MediaHash.Text.Binary
import MediaHash.Text.Sixteen

/-!
# Statements of a TOML document

A document is a run of statements: headers that open a table, and keys that
are given values.  Numbers, dates and strings are checked here.  How the
statements build up tables is settled where the document is built.
-/

namespace MediaHash.Toml

/-- A value as it is written. -/
inductive Written where
  | string (value : String)
  | integer (value : Int)
  | boolean (value : Bool)
  | float
  /-- A number that is too great to be held. -/
  | excessive
  | date
  | array (items : List Written)
  /-- An inline table: dotted keys with their values. -/
  | table (entries : List (List String × Written))
deriving Repr

/-- One statement of a document. -/
inductive Statement where
  /-- A table opens: `[path]`. -/
  | header (path : List String)
  /-- A further table of an array opens: `[[path]]`. -/
  | arrayHeader (path : List String)
  /-- A key gets its value: `path = value`. -/
  | assign (path : List String) (value : Written)
deriving Repr

/-! ## Blanks, line ends and comments -/

/-- Drop spaces and tabs. -/
def skipBlanks (input : List Char) : List Char :=
  input.dropWhile fun letter => letter == ' ' || letter == '\t'

/-- A character that may stand in a comment or between quotes. -/
def isPrintable (letter : Char) : Bool :=
  letter == '\t' || (0x20 ≤ letter.toNat && letter.toNat != 0x7F)

/-- What is left after a line end, if one comes next. -/
def lineEnd? : List Char → Option (List Char)
  | '\n' :: rest => some rest
  | '\r' :: '\n' :: rest => some rest
  | _ => none

/-- Drop blanks, comments and line ends, from within a comment or not. -/
def skipSpaceFrom : Bool → List Char → List Char
  | _, '\n' :: rest => skipSpaceFrom false rest
  | _, '\r' :: '\n' :: rest => skipSpaceFrom false rest
  | false, ' ' :: rest => skipSpaceFrom false rest
  | false, '\t' :: rest => skipSpaceFrom false rest
  | false, '#' :: rest => skipSpaceFrom true rest
  | true, letter :: rest =>
      if isPrintable letter then skipSpaceFrom true rest else letter :: rest
  | _, input => input

/--
Drop blanks, comments and line ends.  A character that no comment may hold
is left over, and it cannot stand anywhere else either.
-/
def skipSpace (input : List Char) : List Char :=
  skipSpaceFrom false input

/-- What is left after blanks and a comment, at a line end or the end. -/
def endOfLine? (input : List Char) : Option (List Char) :=
  let rest := match skipBlanks input with
    | '#' :: comment => comment.dropWhile isPrintable
    | rest => rest
  match rest with
  | [] => some []
  | rest => lineEnd? rest

/-! ## Strings -/

/-- The character whose code point is written in a number of digits. -/
def readCode (count : Nat) (input : List Char) :
    Option (Char × List Char) :=
  let digits := input.take count
  let code := Text.valueIn 16 digits
  if digits.length = count ∧ digits.all Text.isHexDigit = true ∧
      code.isValidChar then
    some (Char.ofNat code, input.drop count)
  else none

/-- The character that an escape stands for, its backslash gone. -/
def readEscape : List Char → Option (Char × List Char)
  | 'b' :: rest => some ('\x08', rest)
  | 't' :: rest => some ('\t', rest)
  | 'n' :: rest => some ('\n', rest)
  | 'f' :: rest => some ('\x0C', rest)
  | 'r' :: rest => some ('\r', rest)
  | 'e' :: rest => some ('\x1B', rest)
  | '\x22' :: rest => some ('\x22', rest)
  | '\\' :: rest => some ('\\', rest)
  | 'x' :: rest => readCode 2 rest
  | 'u' :: rest => readCode 4 rest
  | 'U' :: rest => readCode 8 rest
  | _ => none

/--
The rest of a string on one line, its opening quote gone; the fuel bounds
its length.
-/
def readBasic : Nat → List Char → Option (List Char × List Char)
  | 0, _ => none
  | _, [] => none
  | fuel + 1, letter :: rest =>
      if letter = '\x22' then some ([], rest)
      else if letter = '\\' then do
        let (meant, rest) ← readEscape rest
        let (value, rest) ← readBasic fuel rest
        some (meant :: value, rest)
      else if isPrintable letter then do
        let (value, rest) ← readBasic fuel rest
        some (letter :: value, rest)
      else none

/-- The rest of a literal string on one line, its opening quote gone. -/
def readLiteral (input : List Char) : Option (List Char × List Char) :=
  let inside (letter : Char) := isPrintable letter && letter != '\x27'
  match input.dropWhile inside with
  | '\x27' :: rest => some (input.takeWhile inside, rest)
  | _ => none

/-- The quotes that end a string of several lines: three, and up to two more. -/
def closing? (quote : Char) (input : List Char) :
    Option (List Char × List Char) :=
  let quotes := input.takeWhile (· == quote)
  if 3 ≤ quotes.length then
    let extra := min (quotes.length - 3) 2
    some (List.replicate extra quote, input.drop (3 + extra))
  else none

/-- Drop blanks and line ends. -/
def skipBlankLines : List Char → List Char
  | ' ' :: rest => skipBlankLines rest
  | '\t' :: rest => skipBlankLines rest
  | '\n' :: rest => skipBlankLines rest
  | '\r' :: '\n' :: rest => skipBlankLines rest
  | input => input

/-- The rest of a string of several lines; escapes only when asked for. -/
def readLines (quote : Char) (escapes : Bool) :
    Nat → List Char → Option (List Char × List Char)
  | 0, _ => none
  | fuel + 1, input =>
      match closing? quote input with
      | some (extra, rest) => some (extra, rest)
      | none =>
        match lineEnd? input with
        | some rest => do
            let (value, rest) ← readLines quote escapes fuel rest
            some ('\n' :: value, rest)
        | none =>
          match input with
          | [] => none
          | letter :: rest =>
              if escapes && letter == '\\' then
                match lineEnd? (skipBlanks rest) with
                | some next =>
                    readLines quote escapes fuel (skipBlankLines next)
                | none => do
                    let (meant, rest) ← readEscape rest
                    let (value, rest) ← readLines quote escapes fuel rest
                    some (meant :: value, rest)
              else if isPrintable letter then do
                let (value, rest) ← readLines quote escapes fuel rest
                some (letter :: value, rest)
              else none

/-- What is left after the line end that may follow opening quotes. -/
def dropFirstLineEnd (input : List Char) : List Char :=
  (lineEnd? input).getD input

/--
A string in any of the four forms, if one comes next; the fuel bounds its
length.
-/
def readString (fuel : Nat) (input : List Char) :
    Option (List Char × List Char) :=
  match input with
  | '\x22' :: '\x22' :: '\x22' :: rest =>
      readLines '\x22' true fuel (dropFirstLineEnd rest)
  | '\x27' :: '\x27' :: '\x27' :: rest =>
      readLines '\x27' false fuel (dropFirstLineEnd rest)
  | '\x22' :: rest => readBasic fuel rest
  | '\x27' :: rest => readLiteral rest
  | _ => none

/-! ## Keys -/

/-- A character of a key without quotes. -/
def isKeyCharacter (letter : Char) : Bool :=
  letter.isAlphanum || letter == '-' || letter == '_'

/-- One part of a dotted key; the fuel bounds its length in quotes. -/
def readKeyPart (fuel : Nat) (input : List Char) :
    Option (String × List Char) :=
  match input with
  | '\x22' :: rest => do
      let (value, rest) ← readBasic fuel rest
      some (String.ofList value, rest)
  | '\x27' :: rest => do
      let (value, rest) ← readLiteral rest
      some (String.ofList value, rest)
  | _ =>
      let name := input.takeWhile isKeyCharacter
      if name.isEmpty then none
      else some (String.ofList name, input.dropWhile isKeyCharacter)

/-- How many parts a key may have, and how deep values may be nested. -/
def depthLimit : Nat := 80

/-- A dotted key of so many parts at most, blanks allowed around its dots. -/
def readKeyUpTo (fuel : Nat) :
    Nat → List Char → Option (List String × List Char)
  | 0, _ => none
  | limit + 1, input => do
      let (part, rest) ← readKeyPart fuel (skipBlanks input)
      match skipBlanks rest with
      | '.' :: rest => do
          let (parts, rest) ← readKeyUpTo fuel limit rest
          some (part :: parts, rest)
      | rest => some ([part], rest)

/-- A dotted key; the fuel bounds the length of its parts. -/
def readKey (fuel : Nat) (input : List Char) :
    Option (List String × List Char) :=
  readKeyUpTo fuel depthLimit input

/-! ## Numbers and dates -/

/-- Digits with single underscores between them, the underscores dropped. -/
def plainDigits? (isDigit : Char → Bool) : List Char → Option (List Char)
  | [] => none
  | [digit] => if isDigit digit then some [digit] else none
  | digit :: '_' :: rest =>
      if isDigit digit then (digit :: ·) <$> plainDigits? isDigit rest
      else none
  | digit :: rest =>
      if isDigit digit then (digit :: ·) <$> plainDigits? isDigit rest
      else none

/-- The greatest magnitude of an integer with or without a minus sign. -/
def integerLimit (negative : Bool) : Nat :=
  if negative then 170141183460469231731687303715884105728
  else 340282366920938463463374607431768211455

/-- The integer of digits in a base, if it can be held. -/
def integerUpTo (base : Nat) (negative : Bool) (digits : List Char) :
    Written :=
  let limit := integerLimit negative
  let value := Text.valueUpTo base limit digits
  if limit < value then .excessive
  else .integer (if negative then -(value : Int) else value)

/-- An integer in base sixteen, eight or two, after its mark. -/
def basedInteger? (base : Nat) (digits : List Char) : Option Written := do
  let isDigit (letter : Char) : Bool :=
    (Text.hexValue? letter).any fun value => value < base
  let plain ← plainDigits? isDigit digits
  some (integerUpTo base false plain)

/-- The sign and the rest of a number. -/
def splitSign : List Char → Bool × List Char
  | '-' :: rest => (true, rest)
  | '+' :: rest => (false, rest)
  | rest => (false, rest)

/-- Decimal digits without a leading zero, the underscores dropped. -/
def wholePart? (written : List Char) : Option (List Char) := do
  let digits ← plainDigits? Char.isDigit written
  if digits.head? = some '0' ∧ digits ≠ ['0'] then none else some digits

/-- A decimal integer with an optional sign. -/
def decimalInteger? (written : List Char) : Option Written := do
  let (negative, unsigned) := splitSign written
  let digits ← wholePart? unsigned
  some (integerUpTo 10 negative digits)

/-- The digits after a point, none without a point. -/
def fractionPart? : List Char → Option (List Char)
  | '.' :: written => plainDigits? Char.isDigit written
  | [] => some []
  | _ => none

/-- An exponent beyond all that matter. -/
def exponentLimit : Nat := 4294967296

/-- The exponent that ends a number, zero without one. -/
def exponentPart? : List Char → Option Int
  | [] => some 0
  | _ :: written => do
      let (negative, unsigned) := splitSign written
      let digits ← plainDigits? Char.isDigit unsigned
      let size : Int := Text.numeralUpTo exponentLimit digits
      some (if negative then -size else size)

/-- A number with a point or an exponent, or one of the two special values. -/
def float? (written : List Char) : Option Written :=
  let unsigned := (splitSign written).2
  if unsigned = "inf".toList ∨ unsigned = "nan".toList then some .float
  else do
    let isMark (letter : Char) := letter == 'e' || letter == 'E'
    let mantissa := unsigned.takeWhile fun letter => !isMark letter
    let ending := unsigned.dropWhile fun letter => !isMark letter
    let digits ← wholePart? (mantissa.takeWhile (· != '.'))
    let fraction ← fractionPart? (mantissa.dropWhile (· != '.'))
    let exponent ← exponentPart? ending
    if fraction.isEmpty ∧ ending.isEmpty then none
    else if Text.overflows (digits ++ fraction)
        (exponent - fraction.length) then
      some .excessive
    else some .float

/-- The number that exactly so many digits at the front spell. -/
def fixedNumber (count : Nat) (input : List Char) :
    Option (Nat × List Char) :=
  let digits := input.take count
  if digits.length = count ∧ digits.all Char.isDigit = true then
    some (Text.numeralValue digits, input.drop count)
  else none

/-- What is left after a character that must come next. -/
def expect (letter : Char) : List Char → Option (List Char)
  | first :: rest => if first = letter then some rest else none
  | [] => none

/-- The number of days of a month. -/
def daysIn (year month : Nat) : Nat :=
  if month = 2 then
    if (year % 4 = 0 ∧ year % 100 ≠ 0) ∨ year % 400 = 0 then 29 else 28
  else if month = 4 ∨ month = 6 ∨ month = 9 ∨ month = 11 then 30
  else 31

/-- What is left after a date. -/
def takeDate (input : List Char) : Option (List Char) := do
  let (year, rest) ← fixedNumber 4 input
  let rest ← expect '-' rest
  let (month, rest) ← fixedNumber 2 rest
  let rest ← expect '-' rest
  let (day, rest) ← fixedNumber 2 rest
  if 1 ≤ month ∧ month ≤ 12 ∧ 1 ≤ day ∧ day ≤ daysIn year month then
    some rest
  else none

/-- What is left after a time of day. -/
def takeTime (input : List Char) : Option (List Char) := do
  let (hour, rest) ← fixedNumber 2 input
  let rest ← expect ':' rest
  let (minute, rest) ← fixedNumber 2 rest
  if 23 < hour ∨ 59 < minute then none
  else match rest with
    | ':' :: rest => do
        let (second, rest) ← fixedNumber 2 rest
        if 60 < second then none
        else match rest with
          | '.' :: fraction =>
              let digits := fraction.takeWhile Char.isDigit
              if digits.isEmpty then none
              else some (fraction.drop digits.length)
          | _ => some rest
    | _ => some rest

/-- Nothing, or the distance of a time from the universal time, is left. -/
def isOffset (input : List Char) : Bool :=
  match input with
  | [] | ['Z'] | ['z'] => true
  | sign :: rest =>
      (sign == '+' || sign == '-') &&
        match fixedNumber 2 rest with
        | some (hour, rest) =>
            hour ≤ 23 && match rest with
              | ':' :: rest => match fixedNumber 2 rest with
                | some (minute, []) => minute ≤ 59
                | _ => false
              | _ => false
        | none => false

/-- A date, a time, or both. -/
def isDate (written : List Char) : Bool :=
  match takeDate written with
  | some [] => true
  | some (mark :: rest) =>
      (mark == 'T' || mark == 't' || mark == ' ') &&
        (takeTime rest).any isOffset
  | none => takeTime written == some []

/-- The value that a run of characters without quotes or brackets spells. -/
def scalar? (written : List Char) : Option Written :=
  if written = "true".toList then some (.boolean true)
  else if written = "false".toList then some (.boolean false)
  else match written with
    | '0' :: 'x' :: digits => basedInteger? 16 digits
    | '0' :: 'o' :: digits => basedInteger? 8 digits
    | '0' :: 'b' :: digits => basedInteger? 2 digits
    | _ =>
        match decimalInteger? written with
        | some value => some value
        | none =>
            match float? written with
            | some value => some value
            | none => if isDate written then some .date else none

/-- A character of a value without quotes or brackets. -/
def isScalarCharacter (letter : Char) : Bool :=
  letter.isAlphanum || letter == '+' || letter == '-' || letter == '_' ||
    letter == '.' || letter == ':'

/-- A value without quotes or brackets; a date may hold one space. -/
def readScalar (input : List Char) : Option (Written × List Char) := do
  let word := input.takeWhile isScalarCharacter
  let rest := input.dropWhile isScalarCharacter
  match rest with
  | ' ' :: digit :: _ =>
      if digit.isDigit && (takeDate word == some []) then
        let time := rest.tail.takeWhile isScalarCharacter
        let value ← scalar? (word ++ ' ' :: time)
        some (value, rest.drop (time.length + 1))
      else
        let value ← scalar? word
        some (value, rest)
  | _ =>
      let value ← scalar? word
      some (value, rest)

/-! ## Values -/

mutual

/--
A value that holds no more than `depth` arrays and inline tables inside each
other.  The fuel bounds how many parts it has and how long each of them is.
-/
def readValue : Nat → Nat → List Char → Option (Written × List Char)
  | 0, _, _ => none
  | fuel + 1, depth, input =>
      match input, depth with
      | '[' :: rest, depth + 1 => do
          let (items, rest) ←
            readItems fuel depth (skipSpace rest)
          some (.array items, rest)
      | '{' :: rest, depth + 1 => do
          let (entries, rest) ←
            readEntries fuel depth (skipSpace rest)
          some (.table entries, rest)
      | '\x22' :: _, _ | '\x27' :: _, _ => do
          let (value, rest) ← readString fuel input
          some (.string (String.ofList value), rest)
      | _, _ => readScalar input

/-- The items of an array and its end. -/
def readItems : Nat → Nat → List Char → Option (List Written × List Char)
  | 0, _, _ => none
  | fuel + 1, depth, input =>
      match input with
      | ']' :: rest => some ([], rest)
      | _ => do
          let (item, rest) ← readValue fuel depth input
          match skipSpace rest with
          | ',' :: rest => do
              let (items, rest) ←
                readItems fuel depth (skipSpace rest)
              some (item :: items, rest)
          | ']' :: rest => some ([item], rest)
          | _ => none

/--
The entries of an inline table and its end.  Lines may end anywhere but
within a key.
-/
def readEntries :
    Nat → Nat → List Char →
      Option (List (List String × Written) × List Char)
  | 0, _, _ => none
  | fuel + 1, depth, input =>
      match input with
      | '}' :: rest => some ([], rest)
      | _ => do
          let (key, rest) ← readKey fuel input
          let rest ← expect '=' (skipSpace rest)
          let (value, rest) ←
            readValue fuel depth (skipSpace rest)
          match skipSpace rest with
          | ',' :: rest => do
              let (entries, rest) ←
                readEntries fuel depth (skipSpace rest)
              some ((key, value) :: entries, rest)
          | '}' :: rest => some ([(key, value)], rest)
          | _ => none

end

/-! ## Statements -/

/--
One statement and what is left of its line; the fuel bounds its length.
-/
def readStatement (fuel : Nat) (input : List Char) :
    Option (Statement × List Char) :=
  match input with
  | '[' :: '[' :: rest => do
      let (path, rest) ← readKey fuel rest
      let rest ← expect ']' rest
      let rest ← expect ']' rest
      some (.arrayHeader path, rest)
  | '[' :: rest => do
      let (path, rest) ← readKey fuel rest
      let rest ← expect ']' rest
      some (.header path, rest)
  | _ => do
      let (path, rest) ← readKey fuel input
      let rest ← expect '=' rest
      let (value, rest) ← readValue (2 * fuel) depthLimit (skipBlanks rest)
      some (.assign path value, rest)

/--
The statements of a document.  The fuel bounds their number and the length
of each.
-/
def readStatements : Nat → List Char → Option (List Statement)
  | 0, _ => none
  | fuel + 1, input =>
      match skipSpace input with
      | [] => some []
      | start => do
          let (statement, rest) ← readStatement (fuel + 1) start
          let rest ← endOfLine? rest
          let statements ← readStatements fuel rest
          some (statement :: statements)

/-- The statements of a document, its byte order mark dropped. -/
def statements? (document : List Char) : Option (List Statement) :=
  let unmarked := match document with
    | '\uFEFF' :: rest => rest
    | _ => document
  readStatements (unmarked.length + 1) unmarked

end MediaHash.Toml
