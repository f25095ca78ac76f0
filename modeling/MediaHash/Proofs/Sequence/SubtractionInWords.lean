import MediaHash.Proofs.Sequence.Membership
import MediaHash.Proofs.Sequence.Subtraction

/-!
# Subtracting runs in words

Numbers of a sequence are words of 32 bits, and a walk over covered runs keeps
the number at which the next part may begin.  Behind a run that ends with the
greatest word there is no such number, and nothing can be left any more.  In
front of a run a part ends with the number before the first of the run, which
a word can hold since the part itself begins below it.

The main statement says that the walk in words never leaves them, and that it
gives the canonical runs of exactly the numbers that are not covered, although
it does not look at runs above the range.
-/

namespace MediaHash

namespace Run

/-- A number as a word, if it is none too great for one. -/
def word? (number : Nat) : Option Nat :=
  if number ≤ Token.largest then some number else none

/-- The word before a word; there is none before zero. -/
def before? : Nat → Option Nat
  | 0 => none
  | number + 1 => some number

/--
The parts that ascending runs leave of the words from a cursor to a last one.
The cursor is empty behind the greatest word.  The walk has no result if a
difference leaves the words.
-/
def uncoveredInWordsFrom (last : Nat) :
    Option Nat → List Run → Option (List Run)
  | none, _ => some []
  | some next, [] => some (between next last)
  | some next, run :: rest =>
      if last < run.first then some (between next last)
      else if run.last < next then uncoveredInWordsFrom last (some next) rest
      else if next < run.first then do
        let bound ← before? run.first
        let parts ← uncoveredInWordsFrom last (word? (run.last + 1)) rest
        some (⟨next, bound⟩ :: parts)
      else uncoveredInWordsFrom last (word? (run.last + 1)) rest

/-- The parts of a run that ascending runs leave, worked out in words. -/
def uncoveredInWords (run : Run) (covered : List Run) : Option (List Run) :=
  uncoveredInWordsFrom run.last (some run.first) covered

theorem before?_of_lt {lower number : Nat} (above : lower < number) :
    before? number = some (number - 1) := by
  cases number with
  | zero => cases above
  | succ number => rfl

/-- Nothing is left of no numbers. -/
theorem uncoveredFrom_of_lt {first last : Nat} (empty : last < first)
    (covered : List Run) : uncoveredFrom first last covered = [] := by
  induction covered generalizing first with
  | nil => rw [uncoveredFrom, between, if_neg (Nat.not_le.mpr empty)]
  | cons run rest inductionHypothesis =>
      rw [uncoveredFrom]
      split
      next above => rw [between, if_neg (Nat.not_le.mpr empty)]
      next reached =>
        split
        next below => exact inductionHypothesis empty
        next touched =>
          rw [if_neg (by omega)]
          exact inductionHypothesis (by omega)

theorem uncoveredInWordsFrom_none (last : Nat) (covered : List Run) :
    uncoveredInWordsFrom last none covered = some [] := by
  cases covered with
  | nil => rfl
  | cons run rest => rfl

/-- The walk in words does what the walk over plain numbers does. -/
theorem uncoveredInWordsFrom_word? (first : Nat) {last : Nat}
    (inWords : last ≤ Token.largest) (covered : List Run) :
    uncoveredInWordsFrom last (word? first) covered =
      some (uncoveredFrom first last covered) := by
  induction covered generalizing first with
  | nil =>
      rw [word?]
      split
      next isWord => rfl
      next beyond =>
        rw [uncoveredInWordsFrom_none, uncoveredFrom_of_lt (by omega)]
  | cons run rest inductionHypothesis =>
      by_cases isWord : first ≤ Token.largest
      · have below := inductionHypothesis first
        rw [word?, if_pos isWord] at below ⊢
        rw [uncoveredInWordsFrom, uncoveredFrom]
        split
        next above => rfl
        next reached =>
          split
          next ended => exact below
          next touched =>
            rw [inductionHypothesis]
            split
            next starts => rw [before?_of_lt starts]; rfl
            next holding => rfl
      · rw [word?, if_neg isWord, uncoveredInWordsFrom_none,
          uncoveredFrom_of_lt (by omega)]

/-! ## What is left -/

theorem Remains.last_le {first last : Nat} {covered parts : List Run}
    (remains : Remains first last covered parts) {part : Run}
    (member : part ∈ parts) : part.last ≤ last := by
  have inOrder := remains.canonical.inOrder part member
  have isLeft : Covers parts part.last :=
    ⟨part, member, contains_iff.mpr ⟨inOrder, Nat.le_refl _⟩⟩
  exact ((remains.covers part.last).mp isLeft).2.1

/-- What is left is determined by the covered numbers of the range. -/
theorem Remains.unique {first last : Nat}
    {covered others parts otherParts : List Run}
    (remains : Remains first last covered parts)
    (otherRemains : Remains first last others otherParts)
    (same : ∀ number, number ≤ last →
      (Covers covered number ↔ Covers others number)) :
    parts = otherParts := by
  apply eq_of_covers_iff remains.canonical otherRemains.canonical
  intro number
  rw [remains.covers, otherRemains.covers]
  constructor
  · rintro ⟨above, below, free⟩
    exact ⟨above, below, mt (same number below).mpr free⟩
  · rintro ⟨above, below, free⟩
    exact ⟨above, below, mt (same number below).mp free⟩

/-- Runs above a range make no difference to what is left of it. -/
theorem uncovered_eq_of_above {run : Run} {passed above : List Run}
    (canonical : Canonical (passed ++ above))
    (isAbove : ∀ other ∈ above, run.last < other.first) :
    uncovered run passed = uncovered run (passed ++ above) := by
  have passedCanonical : Canonical passed :=
    canonical.sublist (List.sublist_append_left passed above)
  apply Remains.unique (remains_uncoveredFrom _ _ passedCanonical)
    (remains_uncoveredFrom _ _ canonical)
  intro number below
  constructor
  · rintro ⟨other, member, holds⟩
    exact ⟨other, List.mem_append_left above member, holds⟩
  · rintro ⟨other, member, holds⟩
    rcases List.mem_append.mp member with isPassed | beyond
    · exact ⟨other, isPassed, holds⟩
    · have starts := isAbove other beyond
      have bounds := contains_iff.mp holds
      omega

/--
The walk in words has a result, which is that of the walk over plain numbers:
canonical runs within the range, for exactly those of its numbers that no
covered run holds.  Where the walk stops because all further runs lie above
the range, these make no difference.
-/
theorem uncovered_leaves_free_words {run : Run} {covered : List Run}
    (inOrder : run.first ≤ run.last) (inWords : run.last ≤ Token.largest)
    (canonical : Canonical covered) :
    uncoveredInWords run covered = some (uncovered run covered) ∧
      Canonical (uncovered run covered) ∧
      (∀ part ∈ uncovered run covered,
        run.first ≤ part.first ∧ part.last ≤ run.last) ∧
      (∀ number, Covers (uncovered run covered) number ↔
        (run.first ≤ number ∧ number ≤ run.last) ∧
          ¬ Covers covered number) ∧
      ∀ passed above, covered = passed ++ above →
        (∀ other ∈ above, run.last < other.first) →
        uncovered run passed = uncovered run covered := by
  have remains : Remains run.first run.last covered (uncovered run covered) :=
    remains_uncoveredFrom _ _ canonical
  have begins : word? run.first = some run.first :=
    if_pos (Nat.le_trans inOrder inWords)
  refine ⟨?_, remains.canonical, ?_, ?_, ?_⟩
  · rw [uncoveredInWords, ← begins]
    exact uncoveredInWordsFrom_word? run.first inWords covered
  · intro part member
    exact ⟨remains.first_le member, remains.last_le member⟩
  · intro number
    rw [remains.covers, and_assoc]
  · rintro passed above rfl isAbove
    exact uncovered_eq_of_above canonical isAbove

/-- Runs at both ends of the words, and one in between. -/
theorem uncovered_between_extreme_words :
    Canonical [⟨0, 2⟩, ⟨5, 5⟩, ⟨4294967290, 4294967295⟩] ∧
      uncoveredInWords ⟨0, 4294967295⟩
          [⟨0, 2⟩, ⟨5, 5⟩, ⟨4294967290, 4294967295⟩] =
        some [⟨3, 4⟩, ⟨6, 4294967289⟩] ∧
      uncoveredInWords ⟨0, 4⟩
          [⟨0, 2⟩, ⟨5, 5⟩, ⟨4294967290, 4294967295⟩] =
        some [⟨3, 4⟩] := by
  have canonical :
      Canonical [⟨0, 2⟩, ⟨5, 5⟩, ⟨4294967290, 4294967295⟩] :=
    ⟨by decide, by simp [Separated]⟩
  have all := @uncovered_leaves_free_words ⟨0, 4294967295⟩ _ (by decide)
    (by decide) canonical
  have front := @uncovered_leaves_free_words ⟨0, 4⟩ _ (by decide)
    (by decide) canonical
  exact ⟨canonical, all.1, front.1⟩

end Run

end MediaHash
