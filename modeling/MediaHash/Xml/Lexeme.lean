import MediaHash.Text.Search
import MediaHash.Text.Sixteen
import MediaHash.Text.Split
import MediaHash.Xml.Character
import MediaHash.Xml.Fault

/-!
# Lexemes of a document

A document is a run of lexemes: tags, text between them, literal data, and
asides (comments and instructions) that carry no content.  Names, references
and the characters allowed in each place are checked here; how tags nest is
checked where the tree is built.
-/

namespace MediaHash.Xml

/-- A name with the part before its colon, empty when there is no colon. -/
structure Name where
  qualifier : String
  base : String
deriving DecidableEq, Repr

/-- A character as it stands, or one that a reference stands for. -/
inductive Piece where
  | literal (letter : Char)
  | reference (letter : Char)
deriving DecidableEq, Repr

/-- An attribute of a tag. -/
structure Attribute where
  name : Name
  value : List Piece
deriving DecidableEq, Repr

/-- One unit of a document. -/
inductive Lexeme where
  /-- A tag that begins an element, and ends it too when `closed` is set. -/
  | opening (name : Name) (attributes : List Attribute) (closed : Bool)
  | closing (name : Name)
  | text (pieces : List Piece)
  /-- Characters of a data section, in which nothing is markup. -/
  | data (letters : List Char)
  /-- A comment or an instruction. -/
  | aside
deriving DecidableEq, Repr

/-! ## Small readers

Each reader takes what it reads from the front of the input and gives what
is left.
-/

/-- What is left after a fixed beginning, if the input begins so. -/
def after? (beginning : String) (input : List Char) : Option (List Char) :=
  if beginning.toList.isPrefixOf input then
    some (input.drop beginning.length)
  else
    none

/-- Drop spaces. -/
def skipSpaces (input : List Char) : List Char :=
  input.dropWhile isSpace

/-- Take a fixed beginning that must be there. -/
def expect (beginning : String) (input : List Char) :
    Except Fault (List Char) :=
  match after? beginning input with
  | some rest => .ok rest
  | none => .error .unexpectedMarkup

/-- Take allowed characters up to a fixed ending, and drop the ending. -/
def readUntil (ending : List Char) :
    List Char → Except Fault (List Char × List Char)
  | [] => .error .unexpectedEnd
  | letter :: rest =>
      if ending.isPrefixOf (letter :: rest) then
        .ok ([], (letter :: rest).drop ending.length)
      else if isAllowed letter then do
        let (taken, rest) ← readUntil ending rest
        .ok (letter :: taken, rest)
      else
        .error .invalidCharacter

/-- Take a name that begins as names must. -/
def readPlainName (input : List Char) :
    Except Fault (List Char × List Char) :=
  let name := input.takeWhile isNameCharacter
  match name with
  | first :: _ =>
      if isNameStart first then .ok (name, input.dropWhile isNameCharacter)
      else .error .invalidName
  | [] => .error .invalidName

/-- Both parts of a name begin as names must; the first may be empty. -/
def nameOfParts (qualifier base : List Char) : Except Fault Name :=
  if qualifier.head?.all isNameStart ∧ base ≠ [] ∧
      base.head?.all isNameStart ∧ ':' ∉ base then
    .ok ⟨String.ofList qualifier, String.ofList base⟩
  else
    .error .invalidName

/-- Take a name that may have a qualifier. -/
def readName (input : List Char) : Except Fault (Name × List Char) := do
  let written := input.takeWhile isNameCharacter
  let rest := input.dropWhile isNameCharacter
  let name ← match Text.splitFirst ':' written with
    | some (qualifier, base) => nameOfParts qualifier base
    | none => nameOfParts [] written
  .ok (name, rest)

/-! ## References -/

/-- The digits have a value in the base that fits a word of 32 bits. -/
def readCode (base : Nat) (digits : List Char) : Option Nat :=
  let value := Text.valueUpTo base UInt32.size digits
  if digits ≠ [] ∧ value < UInt32.size then some value else none

/-- The character with a code point; others stand for U+FFFD. -/
def characterOf (code : Nat) : Char :=
  if code.isValidChar then Char.ofNat code else '\uFFFD'

/-- The allowed character of a numeric reference. -/
def numericReference (base : Nat) (digits : List Char) : Option Char := do
  let code ← readCode base digits
  if isAllowed (characterOf code) then some (characterOf code) else none

/-- The character that the text between ampersand and semicolon stands for. -/
def reference? (body : List Char) : Option Char :=
  match body with
  | '#' :: 'x' :: digits =>
      if digits.all Text.isHexDigit then numericReference 16 digits else none
  | '#' :: digits =>
      if digits.all Char.isDigit then numericReference 10 digits else none
  | _ =>
      if body = "quot".toList then some '\x22'
      else if body = "amp".toList then some '&'
      else if body = "apos".toList then some '\x27'
      else if body = "lt".toList then some '<'
      else if body = "gt".toList then some '>'
      else none

/--
Resolve references.  The state holds the characters of a reference that has
begun, the last of them first.
-/
def piecesFrom : Option (List Char) → List Char →
    Except Fault (List Piece)
  | none, [] => .ok []
  | some _, [] => .error .invalidReference
  | none, letter :: rest =>
      if letter = '&' then piecesFrom (some []) rest
      else (Piece.literal letter :: ·) <$> piecesFrom none rest
  | some body, letter :: rest =>
      if letter = ';' then
        match reference? body.reverse with
        | some meant => (Piece.reference meant :: ·) <$> piecesFrom none rest
        | none => .error .invalidReference
      else piecesFrom (some (letter :: body)) rest

/-- The pieces of a text or value. -/
def piecesOf (written : List Char) : Except Fault (List Piece) :=
  if written.all isAllowed then piecesFrom none written
  else .error .invalidCharacter

/-! ## Tags -/

/-- Take a quoted value as it stands. -/
def readQuoted (input : List Char) :
    Except Fault (List Char × List Char) :=
  match input with
  | quote :: rest =>
      if quote = '\x22' ∨ quote = '\x27' then
        let inside (letter : Char) := letter != quote && letter != '<'
        match rest.dropWhile inside with
        | last :: after =>
            if last = quote then .ok (rest.takeWhile inside, after)
            else .error .invalidCharacter
        | [] => .error .unexpectedEnd
      else .error .missingQuote
  | [] => .error .unexpectedEnd

/-- Take an equals sign, with spaces around it, and a quoted value. -/
def readAssigned (input : List Char) :
    Except Fault (List Char × List Char) := do
  let rest ← expect "=" (skipSpaces input)
  readQuoted (skipSpaces rest)

/-- Take the attributes of a tag and its end; the fuel bounds their number. -/
def readAttributes :
    Nat → List Char → Except Fault (List Attribute × Bool × List Char)
  | 0, _ => .error .unexpectedEnd
  | fuel + 1, input =>
      match skipSpaces input with
      | '/' :: '>' :: rest => .ok ([], true, rest)
      | '>' :: rest => .ok ([], false, rest)
      | [] => .error .unexpectedEnd
      | start =>
          if input.head?.all isSpace then do
            let (name, rest) ← readName start
            let (written, rest) ← readAssigned rest
            let value ← piecesOf written
            let (attributes, closed, rest) ← readAttributes fuel rest
            .ok (⟨name, value⟩ :: attributes, closed, rest)
          else
            .error .missingSpace

/--
Take a tag that begins an element, its first character gone; the fuel bounds
the number of attributes.
-/
def readOpening (fuel : Nat) (input : List Char) :
    Except Fault (Lexeme × List Char) := do
  let (name, rest) ← readName input
  let (attributes, closed, rest) ← readAttributes fuel rest
  .ok (.opening name attributes closed, rest)

/-- Take a tag that ends an element, its first two characters gone. -/
def readClosing (input : List Char) : Except Fault (Lexeme × List Char) := do
  let (name, rest) ← readName input
  let rest ← expect ">" (skipSpaces rest)
  .ok (.closing name, rest)

/-- Take a comment, its first four characters gone. -/
def readComment (input : List Char) : Except Fault (Lexeme × List Char) := do
  let (inside, rest) ← readUntil "-->".toList input
  if Text.occursIn ['-', '-'] inside || inside.getLast? == some '-' then
    .error .invalidComment
  else
    .ok (.aside, rest)

/-- Take an instruction, its first two characters gone. -/
def readInstruction (input : List Char) :
    Except Fault (Lexeme × List Char) := do
  if (after? "xml " input).isSome then .error .invalidDeclaration
  else
    let (_, rest) ← readPlainName input
    let (_, rest) ← readUntil "?>".toList (skipSpaces rest)
    .ok (.aside, rest)

/-- Take a data section, its opening gone. -/
def readData (input : List Char) : Except Fault (Lexeme × List Char) := do
  let (inside, rest) ← readUntil "]]>".toList input
  .ok (.data inside, rest)

/-- Take text up to the next tag. -/
def readText (input : List Char) : Except Fault (Lexeme × List Char) := do
  let written := input.takeWhile (· != '<')
  if Text.occursIn "]]>".toList written then .error .endOfDataInText
  else
    let pieces ← piecesOf written
    .ok (.text pieces, input.dropWhile (· != '<'))

/--
Take one lexeme from an input that is not empty; the fuel bounds the number
of attributes.
-/
def readLexeme (fuel : Nat) (input : List Char) :
    Except Fault (Lexeme × List Char) :=
  match after? "<!--" input with
  | some rest => readComment rest
  | none =>
    match after? "<![CDATA[" input with
    | some rest => readData rest
    | none =>
      match input with
      | '<' :: '?' :: rest => readInstruction rest
      | '<' :: '/' :: rest => readClosing rest
      | '<' :: '!' :: _ => .error .unexpectedMarkup
      | '<' :: rest => readOpening fuel rest
      | _ => readText input

/--
Take lexemes until the input ends.  The fuel bounds their number and that of
the attributes of each; the length of the input is enough.
-/
def readLexemes : Nat → List Char → Except Fault (List Lexeme)
  | _, [] => .ok []
  | 0, _ => .error .unexpectedEnd
  | fuel + 1, input => do
      let (lexeme, rest) ← readLexeme fuel input
      let lexemes ← readLexemes fuel rest
      .ok (lexeme :: lexemes)

/-! ## The declaration -/

/-- Take a declared setting if it comes next, and the spaces after it. -/
def skipSetting (name : String) (input : List Char) :
    Except Fault (List Char) :=
  match after? name input with
  | none => .ok input
  | some _ => do
      let (_, rest) ← readName input
      let (written, rest) ← readAssigned rest
      if ¬ written.all isAllowed then .error .invalidCharacter
      else if rest.head?.all isSpace || (after? "?>" rest).isSome then
        .ok (skipSpaces rest)
      else .error .missingSpace

/--
Take the declaration if the input begins with one.  It must state a version;
an encoding and a statement on other files may follow, in this order.  None
of the values has any effect.
-/
def skipDeclaration (input : List Char) : Except Fault (List Char) :=
  match after? "<?xml " input with
  | none => .ok input
  | some rest => do
      let rest := skipSpaces rest
      if (after? "version" rest).isNone then .error .invalidDeclaration
      else
        let rest ← skipSetting "version" rest
        let rest ← skipSetting "encoding" rest
        let rest ← skipSetting "standalone" rest
        expect "?>" rest

/-- The lexemes of a document, its byte order mark and declaration dropped. -/
def lexemesOf (document : List Char) : Except Fault (List Lexeme) := do
  let unmarked := match document with
    | '\uFEFF' :: rest => rest
    | _ => document
  let body ← skipDeclaration unmarked
  readLexemes body.length body

end MediaHash.Xml
