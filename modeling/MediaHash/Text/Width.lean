import MediaHash.Text.Width.Joining

/-!
# Display width

In a column of text of fixed pitch, most characters take one cell, wide ones
two, and marks on other characters none.  Characters that are drawn together
take the cells of what is drawn.
-/

namespace MediaHash.Text

/-- The cells of a text, and what it amounts to for characters before it. -/
def measure (text : List Char) : Int × Following :=
  text.foldr
    (fun letter (cells, following) =>
      let (added, following) := addCells letter following
      (added + cells, following))
    (0, .of .nothing)

/-- The number of cells that a text takes. -/
def width (text : List Char) : Nat :=
  (measure text).1.toNat

end MediaHash.Text
