import Mathlib.Data.List.Sort
import MediaHash.Proofs.Sequence.Canonical

/-!
# Subtracting runs

What canonical runs leave of a range of numbers is again canonical: where a
part ends and another begins, the covered run between them holds at least one
number.  Subtraction looks at each covered run once, and what it has passed
lies below all that is still to be given out.
-/

namespace MediaHash

namespace Run

theorem covers_between_iff {first last number : Nat} :
    Covers (between first last) number ↔ first ≤ number ∧ number ≤ last := by
  rw [between]
  split
  next inOrder =>
    rw [covers_cons_iff]
    constructor
    · rintro (holds | none)
      · exact holds
      · exact absurd none not_covers_nil
    · exact Or.inl
  next empty =>
    constructor
    · intro none
      exact absurd none not_covers_nil
    · omega

theorem canonical_between (first last : Nat) :
    Canonical (between first last) := by
  rw [between]
  split
  next inOrder =>
    exact canonical_cons_iff.mpr ⟨inOrder, by simp, canonical_nil⟩
  next empty => exact canonical_nil

/-- What is left of the numbers from one to another without covered runs. -/
structure Remains (first last : Nat) (covered parts : List Run) : Prop where
  canonical : Canonical parts
  covers : ∀ number, Covers parts number ↔
    first ≤ number ∧ number ≤ last ∧ ¬ Covers covered number

namespace Remains

variable {first last : Nat} {run : Run} {rest parts : List Run}

theorem first_le (remains : Remains first last rest parts) {part : Run}
    (member : part ∈ parts) : first ≤ part.first := by
  have inOrder := remains.canonical.inOrder part member
  have covered : Covers parts part.first :=
    ⟨part, member, contains_iff.mpr ⟨Nat.le_refl _, inOrder⟩⟩
  exact ((remains.covers part.first).mp covered).1

theorem nil : Remains first last [] (between first last) where
  canonical := canonical_between first last
  covers number := by
    simp only [covers_between_iff, not_covers_nil, not_false_eq_true,
      and_true]

/-- A run above the range leaves all of it, and so does what follows. -/
theorem cons_above (canonical : Canonical (run :: rest))
    (above : last < run.first) :
    Remains first last (run :: rest) (between first last) where
  canonical := canonical_between first last
  covers number := by
    have notCovered : number ≤ last → ¬ Covers (run :: rest) number := by
      intro within covered
      have start := canonical.first_le covered
      omega
    rw [covers_between_iff]
    grind

theorem cons_below (below : run.last < first)
    (remains : Remains first last rest parts) :
    Remains first last (run :: rest) parts where
  canonical := remains.canonical
  covers number := by
    rw [remains.covers, covers_cons_iff]
    grind

/-- A run that holds the first number takes all up to its end. -/
theorem cons_holding (starts : run.first ≤ first) (ends : first ≤ run.last)
    (remains : Remains (run.last + 1) last rest parts) :
    Remains first last (run :: rest) parts where
  canonical := remains.canonical
  covers number := by
    rw [remains.covers, covers_cons_iff]
    grind

/-- A run within the range leaves what is in front of it as a part. -/
theorem cons_within (canonical : Canonical (run :: rest))
    (starts : first < run.first) (ends : run.first ≤ last)
    (remains : Remains (run.last + 1) last rest parts) :
    Remains first last (run :: rest)
      (⟨first, run.first - 1⟩ :: parts) where
  canonical := by
    rcases canonical_cons_iff.mp canonical with ⟨inOrder, -⟩
    refine canonical_cons_iff.mpr
      ⟨Nat.le_sub_one_of_lt starts, ?_, remains.canonical⟩
    intro part member
    have above := remains.first_le member
    show run.first - 1 + 2 ≤ part.first
    omega
  covers number := by
    rcases canonical_cons_iff.mp canonical with ⟨inOrder, -⟩
    have behind : Covers rest number → run.last + 2 ≤ number :=
      canonical.le_of_covers_tail
    rw [covers_cons_iff, remains.covers, covers_cons_iff]
    grind

end Remains

theorem remains_uncoveredFrom (first last : Nat) {covered : List Run}
    (canonical : Canonical covered) :
    Remains first last covered (uncoveredFrom first last covered) := by
  induction covered generalizing first with
  | nil => exact .nil
  | cons run rest ih =>
      rw [uncoveredFrom]
      split
      next above => exact .cons_above canonical above
      next reached =>
        split
        next below => exact .cons_below below (ih first canonical.tail)
        next touched =>
          have behind := ih (run.last + 1) canonical.tail
          split
          next starts =>
            exact .cons_within canonical starts (Nat.le_of_not_lt reached)
              behind
          next holding =>
            exact .cons_holding (Nat.le_of_not_lt holding)
              (Nat.le_of_not_lt touched) behind

/-- The numbers of the parts, in order, are those of the run that are free. -/
theorem membersOf_uncovered {run : Run} {covered : List Run}
    (canonical : Canonical covered) {taken : List Nat}
    (mem_taken : ∀ number, number ∈ taken ↔ Covers covered number) :
    membersOf (uncovered run covered) =
      run.members.filter fun number => number ∉ taken := by
  have remains : Remains run.first run.last covered (uncovered run covered) :=
    remains_uncoveredFrom _ _ canonical
  apply List.Pairwise.eq_of_mem_iff remains.canonical.pairwise_membersOf
  · exact (pairwise_members run).filter _
  · intro number
    rw [mem_membersOf_iff, remains.covers, List.mem_filter, mem_members,
      contains_iff, decide_eq_true_iff, mem_taken, and_assoc]

end Run

end MediaHash
