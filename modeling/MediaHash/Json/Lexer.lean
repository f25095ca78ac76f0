import MediaHash.Json.Numeral
import MediaHash.Json.Value

/-!
# Lexemes of JSON

The characters of a document are taken one by one.  A state says whether
they stand between lexemes, within a string, or within a run of letters and
digits that spells a number or one of the three words.
-/

namespace MediaHash.Json

/-- Why a text is no JSON document. -/
inductive Fault where
  | unexpectedEnd
  | unexpectedCharacter (letter : Char)
  | invalidEscape
  | loneSurrogate
  | invalidLiteral (written : String)
  | numberOutOfRange (written : String)
  | misplaced
  | tooDeep
deriving DecidableEq, Repr

/-- A description of the fault. -/
def Fault.message : Fault → String
  | .unexpectedEnd => "the document ends too early"
  | .unexpectedCharacter letter =>
      "unexpected character " ++ String.ofList (escape letter)
  | .invalidEscape => "invalid escape"
  | .loneSurrogate => "lone surrogate in an escape"
  | .invalidLiteral written => "invalid literal " ++ written
  | .numberOutOfRange written => "number out of range: " ++ written
  | .misplaced => "a part of the document is out of place"
  | .tooDeep => "the document is nested too deeply"

/-- One unit of a document. -/
inductive Lexeme where
  /-- A bracket, comma or colon. -/
  | symbol (letter : Char)
  | string (value : String)
  /-- A value that is neither a string nor has parts. -/
  | scalar (value : Json)
deriving Repr

/-! ## Scalars -/

/-- The number that a run of characters spells. -/
def number (written : List Char) : Except Fault Json :=
  match Numeral.ofChars? written with
  | none => .error (.invalidLiteral (String.ofList written))
  | some numeral =>
      match numeral.whole? with
      | some value => .ok (.int value)
      | none =>
          if numeral.overflows then
            .error (.numberOutOfRange (String.ofList written))
          else .ok (.real (String.ofList written))

/-- The value that a run of letters and digits spells. -/
def literal (written : List Char) : Except Fault Json :=
  if written = "null".toList then .ok .null
  else if written = "true".toList then .ok (.bool true)
  else if written = "false".toList then .ok (.bool false)
  else number written

/-! ## States -/

/-- Where a character stands. Characters taken so far come last first. -/
inductive LexState where
  | between
  /-- Within a number or a word. -/
  | bare (taken : List Char)
  /-- Within quotes. -/
  | quoted (taken : List Char)
  /-- Within quotes, after a backslash. -/
  | escape (taken : List Char)
  /--
  Within the four digits of a code, `left` of them still to come; `high` is
  the surrogate before it, if there is one.
  -/
  | code (taken : List Char) (high : Option Nat) (left value : Nat)
  /-- After a high surrogate, where a backslash must come. -/
  | pair (taken : List Char) (high : Nat)
  /-- After a high surrogate and a backslash, where the letter u must come. -/
  | pairCode (taken : List Char) (high : Nat)

/-- A character that may stand between lexemes. -/
def isSpace (letter : Char) : Bool :=
  letter == ' ' || letter == '\t' || letter == '\n' || letter == '\r'

/-- A character of a number or a word. -/
def isBare (letter : Char) : Bool :=
  letter.isAlphanum || letter == '+' || letter == '-' || letter == '.'

/-- A bracket, comma or colon. -/
def isSymbol (letter : Char) : Bool :=
  letter == '{' || letter == '}' || letter == '[' || letter == ']' ||
    letter == ',' || letter == ':'

/-- Take a character that stands between lexemes or begins one. -/
def begin (letter : Char) : Except Fault (List Lexeme × LexState) :=
  if isSpace letter then .ok ([], .between)
  else if letter = '\x22' then .ok ([], .quoted [])
  else if isSymbol letter then .ok ([.symbol letter], .between)
  else if isBare letter then .ok ([], .bare [letter])
  else .error (.unexpectedCharacter letter)

/-- The character that a letter after a backslash stands for. -/
def unescape? (letter : Char) : Option Char :=
  if letter = '\x22' ∨ letter = '\\' ∨ letter = '/' then some letter
  else if letter = 'b' then some '\x08'
  else if letter = 'f' then some '\x0C'
  else if letter = 'n' then some '\n'
  else if letter = 'r' then some '\r'
  else if letter = 't' then some '\t'
  else none

/-- Take a code of four digits into a string. -/
def takeCode (taken : List Char) (high : Option Nat) (value : Nat) :
    Except Fault LexState :=
  let isHigh := 0xD800 ≤ value ∧ value ≤ 0xDBFF
  let isLow := 0xDC00 ≤ value ∧ value ≤ 0xDFFF
  match high with
  | some first =>
      if isLow then
        .ok (.quoted (Char.ofNat (0x10000 + (first - 0xD800) * 1024 +
          (value - 0xDC00)) :: taken))
      else .error .loneSurrogate
  | none =>
      if isHigh then .ok (.pair taken value)
      else if isLow then .error .loneSurrogate
      else .ok (.quoted (Char.ofNat value :: taken))

/-- Take one character: the lexemes that it completes and the next state. -/
def step (state : LexState) (letter : Char) :
    Except Fault (List Lexeme × LexState) :=
  match state with
  | .between => begin letter
  | .bare taken =>
      if isBare letter then .ok ([], .bare (letter :: taken))
      else do
        let value ← literal taken.reverse
        let (lexemes, state) ← begin letter
        .ok (.scalar value :: lexemes, state)
  | .quoted taken =>
      if letter = '\x22' then
        .ok ([.string (String.ofList taken.reverse)], .between)
      else if letter = '\\' then .ok ([], .escape taken)
      else if letter.toNat < 0x20 then .error (.unexpectedCharacter letter)
      else .ok ([], .quoted (letter :: taken))
  | .escape taken =>
      if letter = 'u' then .ok ([], .code taken none 4 0)
      else match unescape? letter with
        | some meant => .ok ([], .quoted (meant :: taken))
        | none => .error .invalidEscape
  | .code taken high left value =>
      match Text.hexValue? letter with
      | none => .error .invalidEscape
      | some digit =>
          if left ≤ 1 then do
            let state ← takeCode taken high (16 * value + digit)
            .ok ([], state)
          else .ok ([], .code taken high (left - 1) (16 * value + digit))
  | .pair taken high =>
      if letter = '\\' then .ok ([], .pairCode taken high)
      else .error .loneSurrogate
  | .pairCode taken high =>
      if letter = 'u' then .ok ([], .code taken (some high) 4 0)
      else .error .loneSurrogate

/-- The lexemes that the end of the document completes. -/
def finish : LexState → Except Fault (List Lexeme)
  | .between => .ok []
  | .bare taken => (fun value => [.scalar value]) <$> literal taken.reverse
  | _ => .error .unexpectedEnd

/-- The lexemes of a document from a state on. -/
def lexFrom (state : LexState) : List Char → Except Fault (List Lexeme)
  | [] => finish state
  | letter :: rest => do
      let (lexemes, state) ← step state letter
      let later ← lexFrom state rest
      .ok (lexemes ++ later)

end MediaHash.Json
