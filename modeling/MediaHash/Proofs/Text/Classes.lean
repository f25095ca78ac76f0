import MediaHash.Text.Blank
import MediaHash.Text.Sixteen
import MediaHash.Text.Word

/-!
# Classes of characters that exclude each other

No word character and no digit is blank, and none of them is a bracket, an
equals sign, a comma or a dash.  This is what makes the places of the
delimiters in a listing or in a sequence unambiguous.
-/

namespace MediaHash.Text

/-! ## Ranges without a common code point -/

/-- No range of one list meets a range of the other. -/
def apart (left right : List (Nat × Nat)) : Bool :=
  left.all fun (low, high) =>
    right.all fun (otherLow, otherHigh) => high < otherLow || otherHigh < low

theorem liesIn_eq_false_of_apart {left right : List (Nat × Nat)}
    {code : Nat} (separate : apart left right = true)
    (lies : liesIn left code = true) : liesIn right code = false := by
  rcases (liesIn_iff left code).mp lies with
    ⟨⟨low, high⟩, member, lowest, highest⟩
  rw [Bool.eq_false_iff]
  intro other
  rcases (liesIn_iff right code).mp other with
    ⟨⟨otherLow, otherHigh⟩, otherMember, otherLowest, otherHighest⟩
  simp only [apart, List.all_eq_true, Bool.or_eq_true,
    decide_eq_true_eq] at separate
  have gap := separate _ member _ otherMember
  dsimp only at lowest highest otherLowest otherHighest gap
  omega

/-- The code points of blank characters. -/
def blankRanges : List (Nat × Nat) :=
  [(0x09, 0x0D), (0x20, 0x20), (0x85, 0x85), (0xA0, 0xA0),
    (0x1680, 0x1680), (0x2000, 0x200A), (0x2028, 0x2029), (0x202F, 0x202F),
    (0x205F, 0x205F), (0x3000, 0x3000)]

theorem isBlank_eq_liesIn (letter : Char) :
    isBlank letter = liesIn blankRanges letter.toNat := by
  rw [Bool.eq_iff_iff]
  simp only [isBlank, liesIn, blankRanges, List.any_cons, List.any_nil,
    Bool.or_eq_true, Bool.and_eq_true, decide_eq_true_eq, beq_iff_eq,
    Bool.or_false]
  omega

/-! ## Word characters -/

theorem isBlank_eq_false_of_isWord {letter : Char}
    (word : isWord letter = true) : isBlank letter = false := by
  have separate : apart wordRanges blankRanges = true := by decide +kernel
  rw [isBlank_eq_liesIn]
  exact liesIn_eq_false_of_apart separate word

theorem isWord_openingBracket : isWord '(' = false := by decide +kernel

/-! ## Digits -/

/-- The code points of digits in base sixteen. -/
def hexRanges : List (Nat × Nat) :=
  [(0x30, 0x39), (0x41, 0x46), (0x61, 0x66)]

theorem isHexDigit_of_isDigit {letter : Char}
    (digit : letter.isDigit = true) : isHexDigit letter = true := by
  simp [isHexDigit, hexValue?, digit]

theorem le_iff_toNat_le (left right : Char) :
    left ≤ right ↔ left.toNat ≤ right.toNat := by
  rw [Char.le_def, UInt32.le_iff_toNat_le, Char.toNat_val, Char.toNat_val]

theorem isHexDigit_eq_liesIn (letter : Char) :
    isHexDigit letter = liesIn hexRanges letter.toNat := by
  have decimal : letter.isDigit = true ↔
      48 ≤ letter.toNat ∧ letter.toNat ≤ 57 := Char.isDigit_iff_toNat
  have small : 'a' ≤ letter ∧ letter ≤ 'f' ↔
      97 ≤ letter.toNat ∧ letter.toNat ≤ 102 := by
    rw [le_iff_toNat_le, le_iff_toNat_le]
    rfl
  have large : 'A' ≤ letter ∧ letter ≤ 'F' ↔
      65 ≤ letter.toNat ∧ letter.toNat ≤ 70 := by
    rw [le_iff_toNat_le, le_iff_toNat_le]
    rfl
  rw [Bool.eq_iff_iff, liesIn_iff]
  simp only [isHexDigit, hexValue?, decimal, small, large, hexRanges,
    List.mem_cons, List.not_mem_nil, or_false, exists_eq_or_imp,
    exists_eq_left]
  split
  next isDecimal => simp [isDecimal]
  next notDecimal =>
    split
    next isSmall => simp [isSmall]
    next notSmall =>
      split
      next isLarge => simp [isLarge]
      next notLarge => simp [notDecimal, notSmall, notLarge]

theorem isBlank_eq_false_of_isHexDigit {letter : Char}
    (digit : isHexDigit letter = true) : isBlank letter = false := by
  have separate : apart hexRanges blankRanges = true := by decide
  rw [isHexDigit_eq_liesIn] at digit
  rw [isBlank_eq_liesIn]
  exact liesIn_eq_false_of_apart separate digit

theorem isBlank_eq_false_of_isDigit {letter : Char}
    (digit : letter.isDigit = true) : isBlank letter = false :=
  isBlank_eq_false_of_isHexDigit (isHexDigit_of_isDigit digit)

end MediaHash.Text
