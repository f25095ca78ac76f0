import MediaHash.Text.CodePoint

/-!
# Character classes of XML

Which characters a document may hold, and which of them may begin or
continue a name.
-/

namespace MediaHash.Xml

/-- The four characters that separate words of markup. -/
def isSpace (letter : Char) : Bool :=
  letter == ' ' || letter == '\t' || letter == '\n' || letter == '\r'

/-- A character that may stand in a document at all. -/
def isAllowed (letter : Char) : Bool :=
  let code := letter.toNat
  if code < 0x20 then isSpace letter else code != 0xFFFE && code != 0xFFFF

/-- The code points past ASCII that may begin a name. -/
def nameStartRanges : List (Nat × Nat) := [
    (0xC0, 0xD6), (0xD8, 0xF6), (0xF8, 0x2FF), (0x370, 0x37D),
    (0x37F, 0x1FFF), (0x200C, 0x200D), (0x2070, 0x218F), (0x2C00, 0x2FEF),
    (0x3001, 0xD7FF), (0xF900, 0xFDCF), (0xFDF0, 0xFFFD),
    (0x10000, 0xEFFFF)]

/-- The code points past ASCII that may continue a name but not begin one. -/
def nameRestRanges : List (Nat × Nat) := [
    (0xB7, 0xB7), (0x300, 0x36F), (0x203F, 0x2040)]

/-- A character that may begin a name; the colon is among them. -/
def isNameStart (letter : Char) : Bool :=
  if letter.toNat < 0x80 then
    letter.isAlpha || letter == ':' || letter == '_'
  else
    Text.liesIn nameStartRanges letter.toNat

/-- A character that may stand in a name; the colon is among them. -/
def isNameCharacter (letter : Char) : Bool :=
  isNameStart letter || letter.isDigit || letter == '-' || letter == '.' ||
    Text.liesIn nameRestRanges letter.toNat

end MediaHash.Xml
