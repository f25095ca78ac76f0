import MediaHash.Text.Blank

/-!
# Trimming as a relation

A text has exactly one part that is surrounded by nothing but blanks and
neither begins nor ends with a blank.  Trimming finds that part.
-/

namespace MediaHash.Text

/-- The core is what remains of a text without the blanks at its two ends. -/
structure Trims (core text : List Char) : Prop where
  inside : ∃ before after, text = before ++ core ++ after ∧
    (∀ letter ∈ before, isBlank letter = true) ∧
    (∀ letter ∈ after, isBlank letter = true)
  head_visible : ∀ letter ∈ core.head?, isBlank letter = false
  last_visible : ∀ letter ∈ core.getLast?, isBlank letter = false

theorem dropWhile_of_head_visible {text : List Char}
    (visible : ∀ letter ∈ text.head?, isBlank letter = false) :
    text.dropWhile isBlank = text := by
  cases text with
  | nil => rfl
  | cons letter rest =>
      have here : isBlank letter = false := visible letter rfl
      rw [List.dropWhile_cons_of_neg (by simp [here])]

theorem dropEndWhile_of_last_visible {text : List Char}
    (visible : ∀ letter ∈ text.getLast?, isBlank letter = false) :
    dropEndWhile isBlank text = text := by
  rw [dropEndWhile, dropWhile_of_head_visible, List.reverse_reverse]
  rwa [List.head?_reverse]

theorem dropEndWhile_append_of_blank {text after : List Char}
    (blank : ∀ letter ∈ after, isBlank letter = true) :
    dropEndWhile isBlank (text ++ after) = dropEndWhile isBlank text := by
  unfold dropEndWhile
  rw [List.reverse_append, List.dropWhile_append_of_pos]
  simpa using blank

/-- Trimming finds the core of a text. -/
theorem trimBlanks_eq_of_trims {core text : List Char}
    (trims : Trims core text) : trimBlanks text = core := by
  rcases trims with
    ⟨⟨before, after, rfl, beforeBlank, afterBlank⟩, head, last⟩
  rw [trimBlanks, List.append_assoc,
    List.dropWhile_append_of_pos beforeBlank]
  cases core with
  | nil =>
      have nothing : after.dropWhile isBlank = [] := by
        rw [← List.append_nil after,
          List.dropWhile_append_of_pos afterBlank, List.dropWhile_nil]
      simp [nothing, dropEndWhile]
  | cons letter rest =>
      rw [dropWhile_of_head_visible (by simpa using head),
        dropEndWhile_append_of_blank afterBlank,
        dropEndWhile_of_last_visible last]

theorem head_visible_dropWhile (text : List Char) :
    ∀ letter ∈ (text.dropWhile isBlank).head?, isBlank letter = false := by
  intro letter first
  have visible := List.head?_dropWhile_not isBlank text
  rw [Option.mem_def.mp first] at visible
  simpa using visible

theorem takeWhile_blank (text : List Char) :
    ∀ letter ∈ text.takeWhile isBlank, isBlank letter = true :=
  List.all_eq_true.mp List.all_takeWhile

/-- A text ends with the blanks that are dropped there. -/
theorem dropEndWhile_append (text : List Char) :
    dropEndWhile isBlank text ++ (text.reverse.takeWhile isBlank).reverse =
      text := by
  rw [dropEndWhile, ← List.reverse_append, List.takeWhile_append_dropWhile,
    List.reverse_reverse]

/-- What is left of a text after trimming is its core. -/
theorem trimBlanks_trims (text : List Char) :
    Trims (trimBlanks text) text where
  inside := by
    refine ⟨text.takeWhile isBlank,
      ((text.dropWhile isBlank).reverse.takeWhile isBlank).reverse,
      ?_, takeWhile_blank text, ?_⟩
    · rw [List.append_assoc, trimBlanks, dropEndWhile_append,
        List.takeWhile_append_dropWhile]
    · simpa using takeWhile_blank (text.dropWhile isBlank).reverse
  head_visible := by
    intro letter first
    apply head_visible_dropWhile text
    rw [← dropEndWhile_append (text.dropWhile isBlank), List.head?_append,
      ← trimBlanks, Option.mem_def.mp first]
    rfl
  last_visible := by
    intro letter final
    rw [trimBlanks, dropEndWhile, List.getLast?_reverse] at final
    exact head_visible_dropWhile _ letter final

theorem trims_iff {core text : List Char} :
    Trims core text ↔ core = trimBlanks text := by
  constructor
  · intro trims
    exact (trimBlanks_eq_of_trims trims).symm
  · rintro rfl
    exact trimBlanks_trims text

/-- One more blank in front leaves the core as it is. -/
theorem Trims.cons {core text : List Char} {letter : Char}
    (trims : Trims core text) (blank : isBlank letter = true) :
    Trims core (letter :: text) where
  inside := by
    rcases trims.inside with ⟨before, after, rfl, beforeBlank, afterBlank⟩
    exact ⟨letter :: before, after, rfl,
      List.forall_mem_cons.mpr ⟨blank, beforeBlank⟩, afterBlank⟩
  head_visible := trims.head_visible
  last_visible := trims.last_visible

/-! ## Texts that trimming leaves alone or empties -/

theorem trimBlanks_of_visible {text : List Char}
    (visible : ∀ letter ∈ text, isBlank letter = false) :
    trimBlanks text = text := by
  apply trimBlanks_eq_of_trims
  refine ⟨⟨[], [], by simp, by simp, by simp⟩, ?_, ?_⟩
  · intro letter first
    exact visible letter (List.mem_of_head? first)
  · intro letter final
    exact visible letter (List.mem_of_getLast? final)

/-- Trimming a second time changes nothing. -/
@[simp]
theorem trimBlanks_trimBlanks (text : List Char) :
    trimBlanks (trimBlanks text) = trimBlanks text := by
  have trims := trimBlanks_trims text
  exact trimBlanks_eq_of_trims
    ⟨⟨[], [], by simp, by simp, by simp⟩, trims.head_visible,
      trims.last_visible⟩

/-- Nothing is left exactly of the texts that hold blanks only. -/
theorem trimBlanks_eq_nil_iff {text : List Char} :
    trimBlanks text = [] ↔ ∀ letter ∈ text, isBlank letter = true := by
  constructor
  · intro nothing
    rcases (trimBlanks_trims text).inside with
      ⟨before, after, split, beforeBlank, afterBlank⟩
    rw [nothing, List.append_nil] at split
    intro letter member
    rw [split] at member
    rcases List.mem_append.mp member with early | late
    · exact beforeBlank letter early
    · exact afterBlank letter late
  · intro blank
    apply trimBlanks_eq_of_trims
    exact ⟨⟨text, [], by simp, blank, by simp⟩, by simp, by simp⟩

end MediaHash.Text
