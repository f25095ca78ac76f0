/-!
# Lines of a text

A line ends at a line feed, which is not part of it; one carriage return
directly before that line feed is dropped as well.  A text that does not end
in a line feed has a last line without one, and there a carriage return is
kept.  The empty text has no lines.
-/

namespace MediaHash.Text

/-- Put a character in front of the first line, opening one if none is there. -/
def extendFirst (letter : Char) : List (List Char) → List (List Char)
  | [] => [[letter]]
  | first :: rest => (letter :: first) :: rest

/-- The lines of a text, without their terminators. -/
def lines : List Char → List (List Char)
  | [] => []
  | '\n' :: rest => [] :: lines rest
  | '\r' :: '\n' :: rest => [] :: lines rest
  | letter :: rest => extendFirst letter (lines rest)

@[simp]
theorem lines_nil : lines [] = [] := rfl

@[simp]
theorem lines_lineFeed (rest : List Char) :
    lines ('\n' :: rest) = [] :: lines rest := by
  simp [lines]

/-- The lines of a text, as texts. -/
def linesOf (text : String) : List String :=
  (lines text.toList).map String.ofList

end MediaHash.Text
