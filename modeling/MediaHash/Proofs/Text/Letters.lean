import MediaHash.Proofs.Text.Classes
import MediaHash.Text.Letters

/-!
# Small letters

Making the letters of a text small a second time changes nothing, so that
the small form of a name stands for all spellings of it.
-/

namespace MediaHash.Text

theorem isLarge_iff (letter : Char) :
    'A' ≤ letter ∧ letter ≤ 'Z' ↔
      65 ≤ letter.toNat ∧ letter.toNat ≤ 90 := by
  rw [le_iff_toNat_le, le_iff_toNat_le]
  rfl

theorem toNat_lowerLetter (letter : Char) :
    (lowerLetter letter).toNat =
      if 65 ≤ letter.toNat ∧ letter.toNat ≤ 90 then letter.toNat + 32
      else letter.toNat := by
  rw [lowerLetter]
  split
  next large =>
    have bounds := (isLarge_iff letter).mp large
    have valid : (letter.toNat + 32).isValidChar := Or.inl (by omega)
    rw [if_pos bounds, toNat_ofNat_of_valid valid]
  next notLarge =>
    rw [if_neg (mt (isLarge_iff letter).mpr notLarge)]

/-- The small form of a letter is small. -/
@[simp]
theorem lowerLetter_lowerLetter (letter : Char) :
    lowerLetter (lowerLetter letter) = lowerLetter letter := by
  apply Char.toNat_inj.mp
  have once := toNat_lowerLetter letter
  have small : ¬ (65 ≤ (lowerLetter letter).toNat ∧
      (lowerLetter letter).toNat ≤ 90) := by
    split at once
    next large => omega
    next notLarge => rwa [once]
  rw [toNat_lowerLetter (lowerLetter letter), if_neg small]

@[simp]
theorem lowerCase_lowerCase (text : String) :
    lowerCase (lowerCase text) = lowerCase text := by
  have letters :
      (text.toList.map lowerLetter).map lowerLetter =
        text.toList.map lowerLetter := by
    rw [List.map_map]
    exact List.map_congr_left fun letter _ => lowerLetter_lowerLetter letter
  rw [lowerCase, toList_lowerCase, letters, lowerCase]

/-- None of the letters is one of A to Z. -/
def IsSmall (text : String) : Prop :=
  ∀ letter ∈ text.toList, ¬ ('A' ≤ letter ∧ letter ≤ 'Z')

instance (text : String) : Decidable (IsSmall text) :=
  decidable_of_iff
    ((text.toList.all fun letter => ¬ ('A' ≤ letter ∧ letter ≤ 'Z')) = true)
    (by simp only [IsSmall, List.all_eq_true, decide_eq_true_eq])

theorem isSmall_lowerCase (text : String) : IsSmall (lowerCase text) := by
  intro letter member
  rw [toList_lowerCase] at member
  rcases List.mem_map.mp member with ⟨original, -, rfl⟩
  have small := toNat_lowerLetter original
  rw [isLarge_iff]
  split at small <;> omega

theorem lowerCase_of_isSmall {text : String} (small : IsSmall text) :
    lowerCase text = text := by
  have letters : text.toList.map lowerLetter = text.toList := by
    calc text.toList.map lowerLetter
        = text.toList.map id :=
          List.map_congr_left fun letter member =>
            if_neg (small letter member)
      _ = text.toList := List.map_id _
  rw [lowerCase, letters, String.ofList_toList]

/-- A character is a word character if its small form is one. -/
theorem isWord_of_isWord_lowerLetter {letter : Char}
    (word : isWord (lowerLetter letter) = true) : isWord letter = true := by
  by_cases large : 'A' ≤ letter ∧ letter ≤ 'Z'
  · have bounds := (isLarge_iff letter).mp large
    rw [isWord, liesIn_iff]
    exact ⟨(0x41, 0x5A), by decide +kernel, bounds.1, bounds.2⟩
  · rwa [lowerLetter, if_neg large] at word

end MediaHash.Text
