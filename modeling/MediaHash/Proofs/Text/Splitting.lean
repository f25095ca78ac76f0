import MediaHash.Proofs.Text.Lines
import MediaHash.Text.Split

/-!
# Splits at a separator

Splitting at the first or at the last separator finds the one split whose
left or right part is free of it, and fails only on a text without one.  The
pieces between separators are the only texts, free of separators, that give
the text back when they are joined by separators.
-/

namespace MediaHash.Text

variable {separator : Char} {text before after : List Char}
variable {otherBefore otherAfter : List Char}

/-! ## The first separator -/

theorem splitFirst_append (absent : separator ∉ before) :
    splitFirst separator (before ++ separator :: after) =
      some (before, after) := by
  induction before with
  | nil => simp [splitFirst]
  | cons letter rest ih =>
      simp only [List.mem_cons, not_or] at absent
      rcases absent with ⟨different, absentRest⟩
      have found := ih absentRest
      simp [splitFirst, Ne.symm different, found]

theorem splitFirst_eq_none_iff :
    splitFirst separator text = none ↔ separator ∉ text := by
  induction text with
  | nil => simp [splitFirst]
  | cons letter rest ih =>
      by_cases same : letter = separator
      · simp [splitFirst, same]
      · simp [splitFirst, same, ih, Ne.symm same]

theorem eq_of_first_split (absent : separator ∉ before)
    (otherAbsent : separator ∉ otherBefore)
    (equal :
      before ++ separator :: after =
        otherBefore ++ separator :: otherAfter) :
    before = otherBefore ∧ after = otherAfter := by
  have split : splitFirst separator (before ++ separator :: after) =
      some (before, after) := splitFirst_append absent
  rw [equal, splitFirst_append otherAbsent] at split
  simp only [Option.some.injEq, Prod.mk.injEq] at split
  exact ⟨split.1.symm, split.2.symm⟩

/-! ## The last separator -/

theorem splitLast_eq_none_iff :
    splitLast separator text = none ↔ separator ∉ text := by
  induction text with
  | nil => simp [splitLast]
  | cons letter rest ih =>
      cases found : splitLast separator rest with
      | none =>
          have absent : separator ∉ rest := ih.mp found
          by_cases same : letter = separator
          · simp [splitLast, found, same]
          · simp [splitLast, found, same, Ne.symm same, absent]
      | some parts =>
          rcases parts with ⟨before, after⟩
          have present : separator ∈ rest := by
            rw [splitLast_eq_some found]
            simp
          simp [splitLast, found, present]

theorem splitLast_append (absent : separator ∉ after) :
    splitLast separator (before ++ separator :: after) =
      some (before, after) := by
  induction before with
  | nil =>
      have none := splitLast_eq_none_iff.mpr absent
      simp [splitLast, none]
  | cons letter rest ih => simp [splitLast, ih]

theorem eq_of_last_split (absent : separator ∉ after)
    (otherAbsent : separator ∉ otherAfter)
    (equal :
      before ++ separator :: after =
        otherBefore ++ separator :: otherAfter) :
    before = otherBefore ∧ after = otherAfter := by
  have split : splitLast separator (before ++ separator :: after) =
      some (before, after) := splitLast_append absent
  rw [equal, splitLast_append otherAbsent] at split
  simp only [Option.some.injEq, Prod.mk.injEq] at split
  exact ⟨split.1.symm, split.2.symm⟩

/-! ## All pieces -/

/-- Parts without the separator that, joined by it, make up a text. -/
structure Joins (separator : Char) (parts : List (List Char))
    (text : List Char) : Prop where
  nonempty : parts ≠ []
  free : ∀ part ∈ parts, separator ∉ part
  joined : [separator].intercalate parts = text

/-- A text without the separator is its only piece. -/
theorem pieces_of_not_mem (absent : separator ∉ text) :
    pieces separator text = [text] := by
  induction text with
  | nil => rfl
  | cons letter rest ih =>
      simp only [List.mem_cons, not_or] at absent
      rcases absent with ⟨different, absentRest⟩
      simp [pieces, Ne.symm different, ih absentRest, extendFirst_cons]

/-- What stands before the first separator is the first piece. -/
theorem pieces_append (absent : separator ∉ before) :
    pieces separator (before ++ separator :: after) =
      before :: pieces separator after := by
  induction before with
  | nil => simp [pieces]
  | cons letter rest ih =>
      simp only [List.mem_cons, not_or] at absent
      rcases absent with ⟨different, absentRest⟩
      simp [pieces, Ne.symm different, ih absentRest, extendFirst_cons]

theorem pieces_joins (separator : Char) (text : List Char) :
    Joins separator (pieces separator text) text := by
  induction text with
  | nil => exact ⟨by simp [pieces], by simp [pieces], by simp [pieces]⟩
  | cons letter rest ih =>
      rcases List.exists_cons_of_ne_nil ih.nonempty with
        ⟨first, others, split⟩
      have free := ih.free
      have joined := ih.joined
      simp only [split, List.forall_mem_cons] at free joined
      by_cases same : letter = separator
      · subst same
        have divided :
            pieces letter (letter :: rest) = [] :: first :: others := by
          simp [pieces, split]
        rw [divided]
        exact ⟨by simp, by simpa using free, by
          simpa [List.intercalate_cons_cons] using joined⟩
      · have divided :
            pieces separator (letter :: rest) =
              (letter :: first) :: others := by
          simp [pieces, same, split, extendFirst_cons]
        rw [divided]
        refine ⟨by simp, ?_, ?_⟩
        · simpa [Ne.symm same] using free
        · rw [List.intercalate_cons_cons_left, joined]

theorem pieces_eq_of_joins {parts : List (List Char)}
    (joins : Joins separator parts text) :
    pieces separator text = parts := by
  rcases joins with ⟨nonempty, free, rfl⟩
  induction parts with
  | nil => exact absurd rfl nonempty
  | cons first rest ih =>
      rcases List.forall_mem_cons.mp free with ⟨firstFree, restFree⟩
      cases rest with
      | nil =>
          rw [List.intercalate_singleton]
          exact pieces_of_not_mem firstFree
      | cons second others =>
          rw [List.intercalate_cons_cons, List.append_assoc,
            List.singleton_append, pieces_append firstFree,
            ih (by simp) restFree]

/-- The pieces are the only parts that make up a text. -/
theorem joins_iff {parts : List (List Char)} :
    Joins separator parts text ↔ parts = pieces separator text := by
  constructor
  · intro joins
    exact (pieces_eq_of_joins joins).symm
  · rintro rfl
    exact pieces_joins separator text

/-! ## Joined texts -/

theorem joinWith_eq_intercalate (separator : String) (texts : List String) :
    joinWith separator texts = separator.intercalate texts := by
  induction texts with
  | nil => rw [joinWith, String.intercalate_nil]
  | cons text rest ih =>
      cases rest with
      | nil => rw [joinWith, String.intercalate_singleton]
      | cons next others =>
          rw [joinWith, ih, String.intercalate_cons_cons]
          exact List.cons_ne_nil next others

end MediaHash.Text
