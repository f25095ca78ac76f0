/-!
# Texts in ascending order

Texts are ordered by their characters, which is also the order of their
UTF-8 bytes.
-/

namespace MediaHash.Text

/-- Insert a text into ascending texts unless it is there already. -/
def insertAscending (text : String) : List String → List String
  | [] => [text]
  | first :: rest =>
      if text = first then first :: rest
      else if text < first then text :: first :: rest
      else first :: insertAscending text rest

/-- Every text once, in ascending order. -/
def ascending (texts : List String) : List String :=
  texts.foldr insertAscending []

theorem mem_insertAscending {text other : String} {texts : List String} :
    other ∈ insertAscending text texts ↔ other = text ∨ other ∈ texts := by
  induction texts with
  | nil => simp [insertAscending]
  | cons first rest ih =>
      unfold insertAscending
      split
      next same => simp [same]
      next =>
        split
        next => simp
        next =>
          simp only [List.mem_cons, ih]
          constructor
          · rintro (h | h | h) <;> simp [h]
          · rintro (h | h | h) <;> simp [h]

theorem pairwise_insertAscending {text : String} {texts : List String}
    (sorted : texts.Pairwise (· < ·)) :
    (insertAscending text texts).Pairwise (· < ·) := by
  induction texts with
  | nil => simp [insertAscending]
  | cons first rest ih =>
      obtain ⟨above, sortedRest⟩ := List.pairwise_cons.mp sorted
      unfold insertAscending
      split
      next => exact sorted
      next different =>
        split
        next before =>
          refine List.pairwise_cons.mpr ⟨?_, sorted⟩
          intro other member
          rcases List.mem_cons.mp member with rfl | later
          · exact before
          · exact String.lt_trans before (above other later)
        next notBefore =>
          refine List.pairwise_cons.mpr ⟨?_, ih sortedRest⟩
          intro other member
          rcases mem_insertAscending.mp member with rfl | later
          · exact Std.lt_of_le_of_ne (String.not_lt.mp notBefore)
              (Ne.symm different)
          · exact above other later

/-- The texts stand in strictly ascending order, so no text stands twice. -/
theorem pairwise_ascending (texts : List String) :
    (ascending texts).Pairwise (· < ·) := by
  induction texts with
  | nil => exact List.Pairwise.nil
  | cons text rest ih => exact pairwise_insertAscending ih

theorem mem_ascending {text : String} {texts : List String} :
    text ∈ ascending texts ↔ text ∈ texts := by
  induction texts with
  | nil => simp [ascending]
  | cons first rest ih =>
      simp only [ascending, List.foldr_cons, mem_insertAscending,
        List.mem_cons]
      simp only [ascending] at ih
      rw [ih]

end MediaHash.Text
