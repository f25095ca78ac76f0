import MediaHash.Claim
import MediaHash.Text.Sixteen
import MediaHash.Text.Split
import MediaHash.Text.Word

/-!
# A line of a listing

A line states a claim when it reads `FAMILY(PATH)= DIGEST`: the family is a
word, the path is anything without a line feed, blanks may stand around the
equals sign, and the digest is a run of hexadecimal digits that ends the
line.  Neither a word nor what follows the path can hold a bracket, so the
path runs from the first opening bracket to the last closing one.
-/

namespace MediaHash.Listing

/-- Drop one carriage return at the end. -/
def dropReturn (line : List Char) : List Char :=
  if line.getLast? = some '\r' then line.dropLast else line

/-- The digest after the path: an equals sign with blanks around it first. -/
def readDigest (text : List Char) : Option (List Char) :=
  match text.dropWhile Text.isBlank with
  | '=' :: rest =>
      let digest := rest.dropWhile Text.isBlank
      if digest ≠ [] ∧ digest.all Text.isHexDigit = true then some digest
      else none
  | _ => none

/-- The claim that the characters of a line spell, if they spell one. -/
def readCharacters (line : List Char) : Option Claim := do
  let (family, rest) ← Text.splitFirst '(' line
  let (path, tail) ← Text.splitLast ')' rest
  let digest ← readDigest tail
  if family ≠ [] ∧ family.all Text.isWord = true ∧ '\n' ∉ path then
    some ⟨String.ofList family, String.ofList path, String.ofList digest⟩
  else
    none

/-- The claim that a line states, if it states one. -/
def readLine (line : String) : Option Claim :=
  readCharacters (dropReturn line.toList)

end MediaHash.Listing
