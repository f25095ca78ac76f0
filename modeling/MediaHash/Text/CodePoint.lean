/-!
# Ranges of code points

A class of characters is given as inclusive ranges of code points.
-/

namespace MediaHash.Text

/-- The code point lies in one of the inclusive ranges. -/
def liesIn (ranges : List (Nat × Nat)) (code : Nat) : Bool :=
  ranges.any fun (low, high) => low ≤ code && code ≤ high

theorem liesIn_iff (ranges : List (Nat × Nat)) (code : Nat) :
    liesIn ranges code = true ↔
      ∃ range ∈ ranges, range.1 ≤ code ∧ code ≤ range.2 := by
  simp [liesIn]

theorem toNat_ofNat_of_valid {code : Nat} (valid : code.isValidChar) :
    (Char.ofNat code).toNat = code := by
  rw [Char.ofNat, dif_pos valid]
  rfl

end MediaHash.Text
