import MediaHash.Text.Cluster
import MediaHash.Text.Split
import MediaHash.Text.Width

/-!
# Breaking lines

A line that is too wide is broken between its words, which are what stands
between spaces.  Only a word that is too wide for a line of its own is broken
itself, between clusters of characters; its beginning is then set where the
line before it has room.
-/

namespace MediaHash.Text

/--
The number of characters of the clusters at the front that fit into a number
of cells.
-/
def fittingLength (room : Nat) : List (List Char) → Nat
  | [] => 0
  | cluster :: rest =>
      let cells := width cluster
      if cells ≤ room then
        cluster.length + fittingLength (room - cells) rest
      else 0

/-- The number of characters of a text that fit into a number of cells. -/
def fitting (room : Nat) (text : List Char) : Nat :=
  fittingLength room (clusters text)

/--
Lines that are complete, the last one first, and one that can take more
words: its letters, the last one first, and its cells.
-/
structure Filling where
  complete : List (List Char)
  letters : List Char
  cells : Nat
deriving DecidableEq, Repr

namespace Filling

/-- Complete the line. -/
def close (filling : Filling) : Filling :=
  ⟨filling.letters.reverse :: filling.complete, [], 0⟩

/-- Complete the line if it has room for two cells at most. -/
def settle (width : Nat) (filling : Filling) : Filling :=
  if width - filling.cells ≤ 2 then filling.close else filling

/--
Begin a line with a word, which is broken between clusters as long as it is
too wide; a line that not even one cluster fits into gets one character.
-/
def start (width : Nat) (complete : List (List Char)) :
    List Char → Filling
  | [] => settle width ⟨complete, [], 0⟩
  | letter :: rest =>
      let word := letter :: rest
      let cells := Text.width word
      if cells ≤ width then settle width ⟨complete, word.reverse, cells⟩
      else
        let others := fitting width word - 1
        start width ((letter :: rest.take others) :: complete)
          (rest.drop others)
termination_by word => word.length
decreasing_by
  rw [List.length_drop]
  exact Nat.lt_succ_of_le (Nat.sub_le _ _)

/-- Add a word, with a space before it if the line has letters already. -/
def add (width : Nat) (filling : Filling) (word : List Char) : Filling :=
  if filling.letters.isEmpty then start width filling.complete word
  else
    let cells := Text.width word
    let room := width - filling.cells - 1
    if filling.cells + 1 + cells ≤ width then
      settle width
        ⟨filling.complete, word.reverse ++ ' ' :: filling.letters,
          filling.cells + 1 + cells⟩
    else if room ≤ 2 ∨ cells ≤ width then
      start width filling.close.complete word
    else
      let count := fitting room word
      let line := filling.letters.reverse ++ ' ' :: word.take count
      start width (line :: filling.complete) (word.drop count)

/-- All lines, in order; a line without letters is none. -/
def lines (filling : Filling) : List (List Char) :=
  if filling.letters.isEmpty then filling.complete.reverse
  else filling.close.complete.reverse

end Filling

/-- The lines of a text that is broken to a width. -/
def wrap (width : Nat) (text : List Char) : List (List Char) :=
  if Text.width text ≤ width then [text]
  else
    ((pieces ' ' text).foldl (Filling.add width) ⟨[], [], 0⟩).lines

end MediaHash.Text
