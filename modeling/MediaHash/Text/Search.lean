/-!
# Occurrences of one text in another
-/

namespace MediaHash.Text

/-- Whether the needle stands somewhere in the text, as one piece. -/
def occursIn (needle : List Char) : List Char → Bool
  | [] => needle.isEmpty
  | letter :: rest =>
      needle.isPrefixOf (letter :: rest) || occursIn needle rest

/-- Whether the text contains the needle. -/
def contains (text needle : String) : Bool :=
  occursIn needle.toList text.toList

/-- An occurrence is a split of the text around the needle. -/
theorem occursIn_iff (needle text : List Char) :
    occursIn needle text = true ↔
      ∃ before after, text = before ++ needle ++ after := by
  induction text with
  | nil =>
      constructor
      · intro occurs
        exact ⟨[], [], by simpa [occursIn] using occurs⟩
      · rintro ⟨before, after, equal⟩
        have empty : needle = [] := by
          simp only [List.nil_eq, List.append_eq_nil_iff] at equal
          exact equal.1.2
        simp [occursIn, empty]
  | cons letter rest ih =>
      simp only [occursIn, Bool.or_eq_true, ih, List.isPrefixOf_iff_prefix]
      constructor
      · rintro (⟨after, equal⟩ | ⟨before, after, equal⟩)
        · exact ⟨[], after, by simpa using equal.symm⟩
        · exact ⟨letter :: before, after, by simp [equal]⟩
      · rintro ⟨before, after, equal⟩
        cases before with
        | nil => exact Or.inl ⟨after, by simpa using equal.symm⟩
        | cons first before =>
            simp only [List.cons_append, List.cons.injEq] at equal
            exact Or.inr ⟨before, after, equal.2⟩

end MediaHash.Text
