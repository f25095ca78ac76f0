/-!
# Letter case

Names of hash families and elements are compared without regard to the case
of the letters A to Z.  Other letters keep their case and differ from their
capitals.
-/

namespace MediaHash.Text

/-- The small form of the letters A to Z; every other character is kept. -/
def lowerLetter (letter : Char) : Char :=
  if 'A' ≤ letter ∧ letter ≤ 'Z' then
    Char.ofNat (letter.toNat + 32)
  else
    letter

/-- The text with each of the letters A to Z made small. -/
def lowerCase (text : String) : String :=
  String.ofList (text.toList.map lowerLetter)

@[simp]
theorem toList_lowerCase (text : String) :
    (lowerCase text).toList = text.toList.map lowerLetter := by
  simp [lowerCase]

/-- Two texts differ at most in the case of the letters A to Z. -/
def sameLetters (left right : String) : Bool :=
  lowerCase left == lowerCase right

theorem sameLetters_iff (left right : String) :
    sameLetters left right = true ↔ lowerCase left = lowerCase right := by
  simp [sameLetters]

end MediaHash.Text
