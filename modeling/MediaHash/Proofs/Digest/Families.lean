import MediaHash.HashType
import MediaHash.Proofs.Text.Letters
import MediaHash.Proofs.Text.Trimming

/-!
# Names of hash families

Tags and labels are words.  A tag is in small letters, and no two families
share one, so a name is the tag of one family at most, in whatever letter case
it is written.  Reading a name accepts more than that: the blanks at its ends
do not count.
-/

namespace MediaHash.HashType

variable {name : String} {family left right : HashType}

/-! ## Tags -/

theorem lowerCase_tag (family : HashType) :
    Text.lowerCase family.tag = family.tag := by
  cases family <;> decide

theorem tag_ne_empty (family : HashType) : family.tag ≠ "" := by
  cases family <;> decide

theorem isWord_tag (family : HashType) :
    ∀ letter ∈ family.tag.toList, Text.isWord letter = true := by
  have word : family.tag.toList.all Text.isWord = true := by
    cases family <;> decide +kernel
  exact List.all_eq_true.mp word

theorem tag_injective : Function.Injective tag := by
  intro left right same
  have found := ofTag?_tag left
  rw [same, ofTag?_tag, Option.some_inj] at found
  exact found.symm

theorem ofTag?_eq_some_iff {tag : String} :
    ofTag? tag = some family ↔ family.tag = tag := by
  constructor
  · intro found
    have tagged := List.find?_some found
    exact eq_of_beq tagged
  · rintro rfl
    exact ofTag?_tag family

/-! ## Labels -/

theorem label_ne_empty (family : HashType) : family.label ≠ "" := by
  cases family <;> decide

theorem isWord_label (family : HashType) :
    ∀ letter ∈ family.label.toList, Text.isWord letter = true := by
  have word : family.label.toList.all Text.isWord = true := by
    cases family <;> decide +kernel
  exact List.all_eq_true.mp word

/-! ## Tags in any letter case -/

theorem sameLetters_tag_iff :
    Text.sameLetters name family.tag = true ↔
      Text.lowerCase name = family.tag := by
  rw [Text.sameLetters_iff, lowerCase_tag]

/-- A name stands for one family at most, whatever its letter case. -/
theorem eq_of_sameLetters_tag
    (isLeft : Text.sameLetters name left.tag = true)
    (isRight : Text.sameLetters name right.tag = true) : left = right := by
  rw [sameLetters_tag_iff] at isLeft isRight
  exact tag_injective (isLeft.symm.trans isRight)

/-- A tag in any letter case has word characters only. -/
theorem isWord_of_sameLetters_tag
    (named : Text.sameLetters name family.tag = true) :
    ∀ letter ∈ name.toList, Text.isWord letter = true := by
  intro letter member
  apply Text.isWord_of_isWord_lowerLetter
  apply isWord_tag family
  rw [← sameLetters_tag_iff.mp named, Text.toList_lowerCase]
  exact List.mem_map_of_mem member

theorem visible_of_sameLetters_tag
    (named : Text.sameLetters name family.tag = true) :
    ∀ letter ∈ name.toList, Text.isBlank letter = false := by
  intro letter member
  exact Text.isBlank_eq_false_of_isWord
    (isWord_of_sameLetters_tag named letter member)

/-! ## Names with blanks at their ends -/

theorem ofName?_eq_some_iff :
    ofName? name = some family ↔
      Text.sameLetters (Text.trim name) family.tag = true := by
  rw [ofName?, ofTag?_eq_some_iff, sameLetters_tag_iff, eq_comm]

/-- A name is read as a family if it is the tag with blanks around it. -/
theorem ofName?_eq_some_iff_exists :
    ofName? name = some family ↔
      ∃ before core after : List Char,
        name.toList = before ++ core ++ after ∧
        (∀ letter ∈ before, Text.isBlank letter = true) ∧
        (∀ letter ∈ after, Text.isBlank letter = true) ∧
        Text.sameLetters (String.ofList core) family.tag = true := by
  rw [ofName?_eq_some_iff, Text.trim]
  constructor
  · intro named
    rcases (Text.trimBlanks_trims name.toList).inside with
      ⟨before, after, split, beforeBlank, afterBlank⟩
    exact ⟨before, _, after, split, beforeBlank, afterBlank, named⟩
  · rintro ⟨before, core, after, split, beforeBlank, afterBlank, named⟩
    have visible : ∀ letter ∈ core, Text.isBlank letter = false := by
      simpa using visible_of_sameLetters_tag named
    have trims : Text.Trims core name.toList :=
      ⟨⟨before, after, split, beforeBlank, afterBlank⟩,
        fun letter first => visible letter (List.mem_of_head? first),
        fun letter final => visible letter (List.mem_of_getLast? final)⟩
    rwa [Text.trimBlanks_eq_of_trims trims]

theorem ofName?_of_sameLetters_tag
    (named : Text.sameLetters name family.tag = true) :
    ofName? name = some family := by
  rw [ofName?_eq_some_iff_exists]
  exact ⟨[], name.toList, [], by simp, by simp, by simp, by simpa⟩

end MediaHash.HashType
