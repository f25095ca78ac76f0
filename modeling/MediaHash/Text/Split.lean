import MediaHash.Text.Lines

/-!
# Splitting at a separator
-/

namespace MediaHash.Text

/-- The pieces between separators; there is one more piece than separators. -/
def pieces (separator : Char) : List Char → List (List Char)
  | [] => [[]]
  | letter :: rest =>
      if letter = separator then [] :: pieces separator rest
      else extendFirst letter (pieces separator rest)

/-- What stands before and after the first separator, if there is one. -/
def splitFirst (separator : Char) :
    List Char → Option (List Char × List Char)
  | [] => none
  | letter :: rest =>
      if letter = separator then some ([], rest)
      else (splitFirst separator rest).map fun (before, after) =>
        (letter :: before, after)

/-- What stands before and after the last separator, if there is one. -/
def splitLast (separator : Char) :
    List Char → Option (List Char × List Char)
  | [] => none
  | letter :: rest =>
      match splitLast separator rest with
      | some (before, after) => some (letter :: before, after)
      | none => if letter = separator then some ([], rest) else none

/-- Write the texts one after the other with a separator between them. -/
def joinWith (separator : String) : List String → String
  | [] => ""
  | [text] => text
  | text :: rest => text ++ separator ++ joinWith separator rest

theorem splitFirst_eq_some {separator : Char}
    {text before after : List Char}
    (found : splitFirst separator text = some (before, after)) :
    text = before ++ separator :: after ∧ separator ∉ before := by
  induction text generalizing before with
  | nil => simp [splitFirst] at found
  | cons letter rest ih =>
      by_cases same : letter = separator
      · simp only [splitFirst, same, if_true, Option.some.injEq,
          Prod.mk.injEq] at found
        simp [← found.1, ← found.2, same]
      · simp only [splitFirst, same, if_false, Option.map_eq_some_iff] at found
        obtain ⟨⟨inner, tail⟩, split, equal⟩ := found
        simp only [Prod.mk.injEq] at equal
        obtain ⟨rfl, rfl⟩ := equal
        obtain ⟨rest_eq, absent⟩ := ih split
        exact ⟨by simp [rest_eq], by simp [absent, Ne.symm same]⟩

theorem splitLast_eq_some {separator : Char}
    {text before after : List Char}
    (found : splitLast separator text = some (before, after)) :
    text = before ++ separator :: after := by
  induction text generalizing before with
  | nil => simp [splitLast] at found
  | cons letter rest ih =>
      unfold splitLast at found
      split at found
      next inner tail split =>
        simp only [Option.some.injEq, Prod.mk.injEq] at found
        obtain ⟨rfl, rfl⟩ := found
        simp [ih split]
      next =>
        split at found
        next same =>
          simp only [Option.some.injEq, Prod.mk.injEq] at found
          simp [← found.1, ← found.2, same]
        next => simp at found

end MediaHash.Text
