import Mathlib.Data.List.Forall2

/-!
# Greedy patterns

A pattern is a row of parts, each of which is one fixed character or a
repetition of characters that pass a test.  A search tries the ways in which
a pattern can spell a whole text one after the other: a repetition first
takes as many characters as it can, and gives one back each time that the
rest of the pattern fails.

The main statement says that the search misses nothing: the ways that it
tries with success are exactly the ways in which the text is made up of texts
that the parts allow.
-/

namespace MediaHash.Text

/-- One part of a pattern. -/
inductive Part where
  /-- This character. -/
  | literal (letter : Char)
  /-- Characters that pass a test, and not too few of them. -/
  | repeated (least : Nat) (test : Char → Bool)

/-- The texts that a part allows. -/
def Part.Takes : Part → List Char → Prop
  | .literal letter, taken => taken = [letter]
  | .repeated least test, taken =>
      least ≤ taken.length ∧ ∀ letter ∈ taken, test letter = true

/--
The beginnings of a text whose characters pass a test, the longest first,
each with what it leaves.
-/
def beginnings (test : Char → Bool) :
    List Char → List (List Char × List Char)
  | [] => [([], [])]
  | letter :: rest =>
      if test letter then
        ((beginnings test rest).map fun (taken, left) =>
          (letter :: taken, left)) ++ [([], letter :: rest)]
      else [([], letter :: rest)]

/-- What a part may take from a text, and what that leaves, best first. -/
def Part.attempts : Part → List Char → List (List Char × List Char)
  | .literal _, [] => []
  | .literal expected, letter :: rest =>
      if letter = expected then [([letter], rest)] else []
  | .repeated least test, text =>
      (beginnings test text).filter fun (taken, _) => least ≤ taken.length

/--
The ways to spell a whole text with a pattern, in the order in which a
search finds them.  A way says what each part takes.
-/
def spellings : List Part → List Char → List (List (List Char))
  | [], [] => [[]]
  | [], _ :: _ => []
  | part :: rest, text =>
      (part.attempts text).flatMap fun (taken, left) =>
        (spellings rest left).map (taken :: ·)

/-! ## The search is complete -/

theorem mem_beginnings_iff {test : Char → Bool}
    {text taken left : List Char} :
    (taken, left) ∈ beginnings test text ↔
      text = taken ++ left ∧ ∀ letter ∈ taken, test letter = true := by
  induction text generalizing taken with
  | nil =>
      simp only [beginnings, List.mem_singleton, Prod.mk.injEq,
        List.nil_eq_append_iff]
      constructor
      · rintro ⟨rfl, rfl⟩
        simp
      · rintro ⟨empty, -⟩
        exact empty
  | cons letter rest ih =>
      by_cases passes : test letter = true
      · simp only [beginnings, passes, if_true, List.mem_append,
          List.mem_map, List.mem_singleton, Prod.mk.injEq, Prod.exists]
        constructor
        · rintro (⟨inner, remaining, found, rfl, rfl⟩ | ⟨rfl, rfl⟩)
          · rcases ih.mp found with ⟨rfl, allPass⟩
            refine ⟨rfl, ?_⟩
            exact List.forall_mem_cons.mpr ⟨passes, allPass⟩
          · simp
        · rintro ⟨split, allPass⟩
          cases taken with
          | nil => exact Or.inr ⟨rfl, split.symm⟩
          | cons first inner =>
              simp only [List.cons_append, List.cons.injEq] at split
              rcases split with ⟨rfl, splitRest⟩
              simp only [List.forall_mem_cons] at allPass
              exact Or.inl
                ⟨inner, left, ih.mpr ⟨splitRest, allPass.2⟩, rfl, rfl⟩
      · simp only [beginnings, passes, List.mem_singleton, Prod.mk.injEq,
          Bool.false_eq_true, if_false]
        constructor
        · rintro ⟨rfl, rfl⟩
          simp
        · rintro ⟨split, allPass⟩
          cases taken with
          | nil => exact ⟨rfl, split.symm⟩
          | cons first inner =>
              simp only [List.cons_append, List.cons.injEq] at split
              rcases split with ⟨rfl, -⟩
              exact absurd (allPass letter List.mem_cons_self) passes

theorem Part.mem_attempts_iff (part : Part) {text taken left : List Char} :
    (taken, left) ∈ part.attempts text ↔
      text = taken ++ left ∧ part.Takes taken := by
  cases part with
  | literal expected =>
      cases text with
      | nil => grind [Part.attempts, Part.Takes]
      | cons letter rest => grind [Part.attempts, Part.Takes]
  | repeated least test =>
      simp only [Part.attempts, List.mem_filter, mem_beginnings_iff,
        decide_eq_true_eq, Part.Takes]
      constructor
      · rintro ⟨⟨split, passes⟩, enough⟩
        exact ⟨split, enough, passes⟩
      · rintro ⟨split, enough, passes⟩
        exact ⟨⟨split, passes⟩, enough⟩

/-- The search finds exactly the ways to make up the text part by part. -/
theorem mem_spellings_iff {pattern : List Part} {text : List Char}
    {way : List (List Char)} :
    way ∈ spellings pattern text ↔
      List.Forall₂ Part.Takes pattern way ∧ way.flatten = text := by
  induction pattern generalizing text way with
  | nil =>
      rw [List.forall₂_nil_left_iff]
      cases text with
      | nil =>
          simp only [spellings, List.mem_singleton]
          constructor
          · rintro rfl
            exact ⟨rfl, rfl⟩
          · exact And.left
      | cons letter rest =>
          simp only [spellings, List.not_mem_nil, false_iff, not_and]
          rintro rfl
          exact List.cons_ne_nil letter rest ∘ Eq.symm
  | cons part rest ih =>
      cases way with
      | nil => simp [spellings, List.forall₂_nil_right_iff]
      | cons taken others =>
          simp only [spellings, List.mem_flatMap, List.mem_map,
            List.cons.injEq, Prod.exists, List.forall₂_cons,
            List.flatten_cons, part.mem_attempts_iff]
          constructor
          · rintro ⟨first, left, ⟨rfl, takes⟩, tail, found, rfl, rfl⟩
            rcases ih.mp found with ⟨allowed, joined⟩
            exact ⟨⟨takes, allowed⟩, by rw [joined]⟩
          · rintro ⟨⟨takes, allowed⟩, rfl⟩
            exact ⟨taken, others.flatten, ⟨rfl, takes⟩, others,
              ih.mpr ⟨allowed, rfl⟩, rfl, rfl⟩

end MediaHash.Text
