/-!
# Blank characters and trimming

A character is blank when it has the property White_Space.  Trimming removes
the longest blank run at both ends of a text and nothing inside it.
-/

namespace MediaHash.Text

/-- The characters with the property White_Space. -/
def isBlank (letter : Char) : Bool :=
  let code := letter.toNat
  (0x09 ≤ code && code ≤ 0x0D) || code == 0x20 || code == 0x85 ||
    code == 0xA0 || code == 0x1680 || (0x2000 ≤ code && code ≤ 0x200A) ||
    code == 0x2028 || code == 0x2029 || code == 0x202F || code == 0x205F ||
    code == 0x3000

/-- Drop the longest run at the end whose characters all satisfy the test. -/
def dropEndWhile (test : Char → Bool) (text : List Char) : List Char :=
  (text.reverse.dropWhile test).reverse

/-- Drop the blank characters at both ends. -/
def trimBlanks (text : List Char) : List Char :=
  dropEndWhile isBlank (text.dropWhile isBlank)

/-- The text without the blank characters at its two ends. -/
def trim (text : String) : String :=
  String.ofList (trimBlanks text.toList)

/-- The text without the blank characters at its end. -/
def trimEnd (text : String) : String :=
  String.ofList (dropEndWhile isBlank text.toList)

end MediaHash.Text
