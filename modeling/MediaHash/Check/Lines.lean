import MediaHash.Text.Lines
import MediaHash.Text.Search
import MediaHash.Verdict

/-!
# Checks of lines

Two texts are compared line by line, in order.  Single lines of a text are
searched for a substring, and a whole text for a line that mentions
something.
-/

namespace MediaHash.Check

/-- The verdict on one line that two texts should share. -/
def compareLine (index : Nat) (expected actual : String) : Verdict :=
  if expected = actual then .matched (.line index) none
  else .mismatch (.line index) .lineMismatch none expected actual

/-- The verdicts on lines from an index on, as far as both sides go. -/
def compareFrom (index : Nat) : List String → List String → List Verdict
  | expected :: reference, actual :: candidate =>
      compareLine index expected actual ::
        compareFrom (index + 1) reference candidate
  | _, _ => []

/--
Compare lines in order.  Different numbers of lines give one verdict on the
number and none on the lines.
-/
def compareLines (reference candidate : List String) : List Verdict :=
  if reference.length = candidate.length then
    compareFrom 0 reference candidate
  else
    [.mismatch .lineCount .lineCountMismatch none
      (Text.decimal reference.length) (Text.decimal candidate.length)]

/-- Compare two texts line by line. -/
def compareTexts (reference candidate : String) : List Verdict :=
  compareLines (Text.linesOf reference) (Text.linesOf candidate)

/-- Lines, counted from zero, that must each contain a substring. -/
structure LineSubstring where
  lines : List Nat
  substring : String
deriving DecidableEq, Repr

/-- The verdict on one line that must contain a substring. -/
def lineSubstring (lines : List String) (substring : String)
    (index : Nat) : Verdict :=
  match lines[index]? with
  | some line =>
      if Text.contains line substring then .matched (.line index) none
      else
        .mismatch (.line index) .missingSubstring none substring line
  | none =>
      .mismatch (.line index) .missingSubstring none substring
        ("<only " ++ Text.decimal lines.length ++ " lines>")

/-- The verdicts on all lines that must contain substrings, in order. -/
def lineSubstrings (text : String) (expected : List LineSubstring) :
    List Verdict :=
  expected.flatMap fun entry =>
    entry.lines.map (lineSubstring (Text.linesOf text) entry.substring)

/-- Whether some line contains the needle. -/
def mentions (lines : List String) (needle : String) : Bool :=
  lines.any fun line => Text.contains line needle

/-- The verdict on lines of which one must contain the needle. -/
def mentionIn (lines : List String) (needle : String) : Verdict :=
  if mentions lines needle then .matched .presence (some needle)
  else
    .mismatch .presence .missingSubstring (some needle) "mentioned"
      "not mentioned"

/-- The verdict on a text of which some line must contain the needle. -/
def mention (text needle : String) : Verdict :=
  mentionIn (Text.linesOf text) needle

end MediaHash.Check
