import Mathlib.Data.Set.Basic
import MediaHash.Sequence.Basic

/-!
# Canonical runs

Runs are canonical when none of them is empty, they ascend, and at least one
number is left out between any two of them.  A set of numbers is covered by
one canonical list of runs at most, so two sequences of the same numbers have
the same runs, however their tokens are written.

Merging walks over runs in the order of their first numbers.  What it needs
of this order is that no run still ahead begins before the current one: then
a run that touches the current run only ever extends it upwards, and a run
that does not leaves a number between them for good.
-/

namespace MediaHash

namespace Run

theorem contains_iff {run : Run} {number : Nat} :
    run.contains number = true ↔ run.first ≤ number ∧ number ≤ run.last := by
  simp [contains]

theorem not_covers_nil {number : Nat} : ¬ Covers [] number := by
  rintro ⟨run, member, -⟩
  cases member

theorem covers_cons_iff {run : Run} {rest : List Run} {number : Nat} :
    Covers (run :: rest) number ↔
      (run.first ≤ number ∧ number ≤ run.last) ∨ Covers rest number := by
  constructor
  · rintro ⟨other, member, holds⟩
    rcases List.mem_cons.mp member with rfl | later
    · exact Or.inl (contains_iff.mp holds)
    · exact Or.inr ⟨other, later, holds⟩
  · rintro (holds | ⟨other, later, holds⟩)
    · exact ⟨run, List.mem_cons_self, contains_iff.mpr holds⟩
    · exact ⟨other, List.mem_cons_of_mem run later, holds⟩

theorem covers_congr {left right : List Run}
    (same : ∀ run, run ∈ left ↔ run ∈ right) (number : Nat) :
    Covers left number ↔ Covers right number := by
  simp only [Covers, same]

/-! ## The canonical form -/

/-- No run is empty, the runs ascend, and no two of them touch. -/
structure Canonical (runs : List Run) : Prop where
  inOrder : ∀ run ∈ runs, run.first ≤ run.last
  separated : Separated runs

theorem canonical_nil : Canonical [] where
  inOrder := by simp
  separated := List.Pairwise.nil

theorem canonical_cons_iff {run : Run} {rest : List Run} :
    Canonical (run :: rest) ↔
      run.first ≤ run.last ∧
        (∀ later ∈ rest, run.last + 2 ≤ later.first) ∧ Canonical rest := by
  constructor
  · rintro ⟨inOrder, separated⟩
    rcases List.forall_mem_cons.mp inOrder with ⟨headInOrder, restInOrder⟩
    rcases List.pairwise_cons.mp separated with ⟨apart, restSeparated⟩
    exact ⟨headInOrder, apart, restInOrder, restSeparated⟩
  · rintro ⟨headInOrder, apart, restInOrder, restSeparated⟩
    constructor
    · exact List.forall_mem_cons.mpr ⟨headInOrder, restInOrder⟩
    · exact List.pairwise_cons.mpr ⟨apart, restSeparated⟩

namespace Canonical

variable {run : Run} {rest : List Run} {number : Nat}

theorem tail (canonical : Canonical (run :: rest)) : Canonical rest :=
  (canonical_cons_iff.mp canonical).2.2

/-- A number is left out between a run and what follows it. -/
theorem le_of_covers_tail (canonical : Canonical (run :: rest))
    (covered : Covers rest number) : run.last + 2 ≤ number := by
  rcases canonical_cons_iff.mp canonical with ⟨-, apart, -⟩
  rcases covered with ⟨later, member, holds⟩
  have bounds := contains_iff.mp holds
  have behind := apart later member
  omega

theorem first_le (canonical : Canonical (run :: rest))
    (covered : Covers (run :: rest) number) : run.first ≤ number := by
  rcases canonical_cons_iff.mp canonical with ⟨inOrder, -⟩
  rcases covers_cons_iff.mp covered with here | later
  · exact here.1
  · have behind := canonical.le_of_covers_tail later
    omega

theorem covers_first (canonical : Canonical (run :: rest)) :
    Covers (run :: rest) run.first := by
  rcases canonical_cons_iff.mp canonical with ⟨inOrder, -⟩
  exact covers_cons_iff.mpr (Or.inl ⟨Nat.le_refl _, inOrder⟩)

theorem not_covers_after (canonical : Canonical (run :: rest)) :
    ¬ Covers (run :: rest) (run.last + 1) := by
  intro covered
  rcases covers_cons_iff.mp covered with here | later
  · omega
  · have behind := canonical.le_of_covers_tail later
    omega

theorem covers_tail_iff (canonical : Canonical (run :: rest)) :
    Covers rest number ↔
      Covers (run :: rest) number ∧ run.last < number := by
  constructor
  · intro covered
    have behind := canonical.le_of_covers_tail covered
    exact ⟨covers_cons_iff.mpr (Or.inr covered), by omega⟩
  · rintro ⟨covered, behind⟩
    rcases covers_cons_iff.mp covered with here | later
    · omega
    · exact later

/-- A stretch of covered numbers does not outlast the run it begins in. -/
theorem le_last (canonical : Canonical (run :: rest)) {bound : Nat}
    (covered : ∀ other, run.first ≤ other → other ≤ bound →
      Covers (run :: rest) other) :
    bound ≤ run.last := by
  rcases canonical_cons_iff.mp canonical with ⟨inOrder, -⟩
  by_contra beyond
  apply canonical.not_covers_after
  apply covered
  · omega
  · omega

end Canonical

theorem last_le_of_covers_iff {left right : Run} {leftRest rightRest : List Run}
    (leftCanonical : Canonical (left :: leftRest))
    (sameFirst : left.first = right.first)
    (same : ∀ number, Covers (left :: leftRest) number ↔
      Covers (right :: rightRest) number) :
    right.last ≤ left.last := by
  apply leftCanonical.le_last
  intro other above below
  apply (same other).mpr
  exact covers_cons_iff.mpr (Or.inl ⟨sameFirst ▸ above, below⟩)

/-- Canonical runs are determined by the numbers that they cover. -/
theorem eq_of_covers_iff {left right : List Run}
    (leftCanonical : Canonical left) (rightCanonical : Canonical right)
    (same : ∀ number, Covers left number ↔ Covers right number) :
    left = right := by
  induction left generalizing right with
  | nil =>
      cases right with
      | nil => rfl
      | cons run rest =>
          have covered := (same run.first).mpr rightCanonical.covers_first
          exact absurd covered not_covers_nil
  | cons leftRun leftRest ih =>
      cases right with
      | nil =>
          have covered := (same leftRun.first).mp leftCanonical.covers_first
          exact absurd covered not_covers_nil
      | cons rightRun rightRest =>
          have sameFirst : leftRun.first = rightRun.first := by
            apply Nat.le_antisymm
            · exact leftCanonical.first_le
                ((same _).mpr rightCanonical.covers_first)
            · exact rightCanonical.first_le
                ((same _).mp leftCanonical.covers_first)
          have sameLast : leftRun.last = rightRun.last := by
            apply Nat.le_antisymm
            · exact last_le_of_covers_iff rightCanonical sameFirst.symm
                fun number => (same number).symm
            · exact last_le_of_covers_iff leftCanonical sameFirst same
          have sameRun : leftRun = rightRun := by
            cases leftRun
            cases rightRun
            exact congrArg₂ Run.mk sameFirst sameLast
          have sameRest : leftRest = rightRest := by
            apply ih leftCanonical.tail rightCanonical.tail
            intro number
            rw [leftCanonical.covers_tail_iff, rightCanonical.covers_tail_iff,
              same, sameLast]
          rw [sameRun, sameRest]

/-! ## Members -/

theorem mem_membersOf_iff {runs : List Run} {number : Nat} :
    number ∈ membersOf runs ↔ Covers runs number := by
  simp only [membersOf, List.mem_flatMap, mem_members, Covers]

theorem pairwise_members (run : Run) : run.members.Pairwise (· < ·) :=
  List.pairwise_lt_range'

theorem Canonical.pairwise_membersOf {runs : List Run}
    (canonical : Canonical runs) :
    (membersOf runs).Pairwise (· < ·) := by
  induction runs with
  | nil => exact List.Pairwise.nil
  | cons run rest ih =>
      rw [membersOf, List.flatMap_cons, List.pairwise_append]
      refine ⟨pairwise_members run, ih canonical.tail, ?_⟩
      intro left inRun right inRest
      have bounds := contains_iff.mp ((mem_members run left).mp inRun)
      have behind :=
        canonical.le_of_covers_tail (mem_membersOf_iff.mp inRest)
      omega

/-! ## Merging -/

/-- Runs in the order of their first numbers. -/
def Ascending (runs : List Run) : Prop :=
  runs.Pairwise fun left right => left.first ≤ right.first

theorem precedes_trans (first second third : Run)
    (left : precedes first second = true)
    (right : precedes second third = true) :
    precedes first third = true := by
  simp only [precedes, Bool.or_eq_true, Bool.and_eq_true, beq_iff_eq,
    decide_eq_true_eq] at left right ⊢
  omega

theorem precedes_total (left right : Run) :
    (precedes left right || precedes right left) = true := by
  simp only [precedes, Bool.or_eq_true, Bool.and_eq_true, beq_iff_eq,
    decide_eq_true_eq]
  omega

theorem ascending_mergeSort (runs : List Run) :
    Ascending (runs.mergeSort precedes) := by
  have sorted := List.pairwise_mergeSort precedes_trans precedes_total runs
  apply sorted.imp
  intro left right inOrder
  simp only [precedes, Bool.or_eq_true, Bool.and_eq_true, beq_iff_eq,
    decide_eq_true_eq] at inOrder
  omega

/-- A run that begins within reach of another extends it and loses nothing. -/
theorem covers_extend_iff {current next : Run} {rest : List Run}
    (behind : current.first ≤ next.first)
    (touching : next.first ≤ current.last + 1) (number : Nat) :
    Covers (⟨current.first, max current.last next.last⟩ :: rest) number ↔
      Covers (current :: next :: rest) number := by
  simp only [covers_cons_iff]
  rw [← or_assoc]
  apply or_congr_left
  omega

/-- What is made of a current run and the ascending runs ahead of it. -/
structure Coalesced (current : Run) (ahead result : List Run) : Prop where
  canonical : Canonical result
  starts : ∀ run ∈ result, current.first ≤ run.first
  covers : ∀ number,
    Covers result number ↔ Covers (current :: ahead) number

theorem coalesced_coalesceFrom {current : Run} {ahead : List Run}
    (inOrder : ∀ run ∈ current :: ahead, run.first ≤ run.last)
    (ascending : Ascending (current :: ahead)) :
    Coalesced current ahead (coalesceFrom current ahead) := by
  -- The invariant is that no run ahead begins before the current one.
  induction ahead generalizing current with
  | nil =>
      constructor
      · exact ⟨inOrder, List.pairwise_singleton _ _⟩
      · intro run member
        rcases List.mem_singleton.mp member with rfl
        exact Nat.le_refl _
      · exact fun number => Iff.rfl
  | cons next rest ih =>
      rcases List.forall_mem_cons.mp inOrder with
        ⟨currentInOrder, aheadInOrder⟩
      rcases List.forall_mem_cons.mp aheadInOrder with
        ⟨nextInOrder, restInOrder⟩
      rcases List.pairwise_cons.mp ascending with ⟨behind, aheadAscending⟩
      have nextBehind : current.first ≤ next.first :=
        behind next List.mem_cons_self
      rw [coalesceFrom]
      split
      next touching =>
        have extendedInOrder :
            ∀ run ∈ ⟨current.first, max current.last next.last⟩ :: rest,
              run.first ≤ run.last :=
          List.forall_mem_cons.mpr
            ⟨Nat.le_trans currentInOrder (Nat.le_max_left _ _), restInOrder⟩
        have extendedAscending :
            Ascending (⟨current.first, max current.last next.last⟩ :: rest) :=
          List.pairwise_cons.mpr
            ⟨fun run member => behind run (List.mem_cons_of_mem _ member),
              aheadAscending.tail⟩
        have extended := ih extendedInOrder extendedAscending
        constructor
        · exact extended.canonical
        · exact extended.starts
        · intro number
          rw [extended.covers, covers_extend_iff nextBehind touching]
      next apart =>
        have later := ih aheadInOrder aheadAscending
        constructor
        · refine canonical_cons_iff.mpr ⟨currentInOrder, ?_, later.canonical⟩
          intro run member
          have start := later.starts run member
          omega
        · intro run member
          rcases List.mem_cons.mp member with rfl | member
          · exact Nat.le_refl _
          · exact Nat.le_trans nextBehind (later.starts run member)
        · intro number
          rw [covers_cons_iff, later.covers, ← covers_cons_iff]

theorem coalesce_spec {runs : List Run}
    (inOrder : ∀ run ∈ runs, run.first ≤ run.last)
    (ascending : Ascending runs) :
    Canonical (coalesce runs) ∧
      ∀ number, Covers (coalesce runs) number ↔ Covers runs number := by
  cases runs with
  | nil => exact ⟨canonical_nil, fun number => Iff.rfl⟩
  | cons first rest =>
      have coalesced := coalesced_coalesceFrom inOrder ascending
      exact ⟨coalesced.canonical, coalesced.covers⟩

section Merge

variable {runs : List Run} (inOrder : ∀ run ∈ runs, run.first ≤ run.last)

include inOrder

theorem merge_spec :
    Canonical (merge runs) ∧
      ∀ number, Covers (merge runs) number ↔ Covers runs number := by
  have sortedInOrder :
      ∀ run ∈ runs.mergeSort precedes, run.first ≤ run.last := by
    intro run member
    exact inOrder run (List.mem_mergeSort.mp member)
  have coalesced := coalesce_spec sortedInOrder (ascending_mergeSort runs)
  refine ⟨coalesced.1, fun number => ?_⟩
  rw [merge, coalesced.2]
  exact covers_congr (fun run => List.mem_mergeSort) number

theorem canonical_merge : Canonical (merge runs) :=
  (merge_spec inOrder).1

theorem covers_merge_iff (number : Nat) :
    Covers (merge runs) number ↔ Covers runs number :=
  (merge_spec inOrder).2 number

end Merge

end Run

/-! ## Tokens -/

namespace Token

/-- The numbers that at least one of the tokens holds. -/
def numbersOf (tokens : List Token) : Set Nat :=
  {number | ∃ token ∈ tokens, token.low ≤ number ∧ number ≤ token.high}

theorem covers_runs_iff {tokens : List Token} {number : Nat} :
    Run.Covers (tokens.map run) number ↔ number ∈ numbersOf tokens := by
  simp [Run.Covers, Run.contains_iff, numbersOf, Token.run]

theorem not_mem_numbersOf_nil {number : Nat} : number ∉ numbersOf [] := by
  rw [← covers_runs_iff]
  exact Run.not_covers_nil

theorem mem_numbersOf_cons_iff {token : Token} {rest : List Token}
    {number : Nat} :
    number ∈ numbersOf (token :: rest) ↔
      (token.low ≤ number ∧ number ≤ token.high) ∨
        number ∈ numbersOf rest := by
  rw [← covers_runs_iff, List.map_cons, Run.covers_cons_iff,
    covers_runs_iff]
  rfl

end Token

namespace Sequence

section Runs

variable {tokens : List Token}
  (inOrder : ∀ token ∈ tokens, token.low ≤ token.high)

include inOrder

theorem inOrder_map_run :
    ∀ run ∈ tokens.map Token.run, run.first ≤ run.last := by
  intro run member
  rcases List.mem_map.mp member with ⟨token, isToken, rfl⟩
  exact inOrder token isToken

theorem canonical_runs : Run.Canonical (ofTokens tokens).runs :=
  Run.canonical_merge (inOrder_map_run inOrder)

theorem covers_runs_iff (number : Nat) :
    Run.Covers (ofTokens tokens).runs number ↔
      number ∈ Token.numbersOf tokens := by
  rw [← Token.covers_runs_iff]
  exact Run.covers_merge_iff (inOrder_map_run inOrder) number

theorem last_le_of_mem_runs {bound : Nat}
    (bounded : ∀ token ∈ tokens, token.high ≤ bound) {run : Run}
    (member : run ∈ (ofTokens tokens).runs) : run.last ≤ bound := by
  have runInOrder := (canonical_runs inOrder).inOrder run member
  have covered : Run.Covers (ofTokens tokens).runs run.last :=
    ⟨run, member, Run.contains_iff.mpr ⟨runInOrder, Nat.le_refl _⟩⟩
  rcases (covers_runs_iff inOrder run.last).mp covered with
    ⟨token, isToken, -, below⟩
  exact Nat.le_trans below (bounded token isToken)

end Runs

/--
The runs of tokens are canonical, they cover the numbers of the tokens and no
others, and their ends are no greater than those of the tokens.  They are the
only canonical runs of these numbers, so that all tokens for the same numbers
have the same runs.
-/
theorem runs_canonical_and_unique (tokens : List Token)
    (inOrder : ∀ token ∈ tokens, token.low ≤ token.high) :
    Run.Canonical (ofTokens tokens).runs ∧
      (∀ number, Run.Covers (ofTokens tokens).runs number ↔
        number ∈ Token.numbersOf tokens) ∧
      (∀ bound, (∀ token ∈ tokens, token.high ≤ bound) →
        ∀ run ∈ (ofTokens tokens).runs, run.last ≤ bound) ∧
      (∀ runs, Run.Canonical runs →
        (∀ number, Run.Covers runs number ↔
          number ∈ Token.numbersOf tokens) →
        runs = (ofTokens tokens).runs) ∧
      ∀ others : List Token, (∀ token ∈ others, token.low ≤ token.high) →
        Token.numbersOf others = Token.numbersOf tokens →
        (ofTokens others).runs = (ofTokens tokens).runs := by
  have canonical := canonical_runs inOrder
  have covers := covers_runs_iff inOrder
  have unique : ∀ runs, Run.Canonical runs →
      (∀ number, Run.Covers runs number ↔ number ∈ Token.numbersOf tokens) →
      runs = (ofTokens tokens).runs := by
    intro runs runsCanonical runsCover
    apply Run.eq_of_covers_iff runsCanonical canonical
    intro number
    rw [runsCover, covers]
  refine ⟨canonical, covers, ?_, unique, ?_⟩
  · intro bound bounded run member
    exact last_le_of_mem_runs inOrder bounded member
  · intro others othersInOrder sameNumbers
    apply unique _ (canonical_runs othersInOrder)
    intro number
    rw [covers_runs_iff othersInOrder, sameNumbers]

/-- Nested, repeated and touching tokens up to the greatest number. -/
theorem runs_of_scattered_tokens :
    (∀ token ∈ [Token.mk 4 6 1, ⟨1, 3, 2⟩, ⟨5, 5, 1⟩,
        ⟨4294967295, 4294967295, 10⟩, ⟨4294967290, 4294967295, 10⟩],
      token.low ≤ token.high) ∧
      (ofTokens [⟨1, 6, 1⟩, ⟨4294967290, 4294967295, 10⟩]).runs =
        (ofTokens [⟨4, 6, 1⟩, ⟨1, 3, 2⟩, ⟨5, 5, 1⟩,
          ⟨4294967295, 4294967295, 10⟩,
          ⟨4294967290, 4294967295, 10⟩]).runs ∧
      [⟨1, 6⟩, ⟨4294967290, 4294967295⟩] =
        (ofTokens [⟨4, 6, 1⟩, ⟨1, 3, 2⟩, ⟨5, 5, 1⟩,
          ⟨4294967295, 4294967295, 10⟩,
          ⟨4294967290, 4294967295, 10⟩]).runs := by
  have inOrder : ∀ token ∈ [Token.mk 4 6 1, ⟨1, 3, 2⟩, ⟨5, 5, 1⟩,
      ⟨4294967295, 4294967295, 10⟩, ⟨4294967290, 4294967295, 10⟩],
      token.low ≤ token.high := by decide
  rcases runs_canonical_and_unique _ inOrder with ⟨-, -, -, unique, same⟩
  refine ⟨inOrder, ?_, ?_⟩
  · apply same _ (by decide)
    ext number
    simp only [Token.mem_numbersOf_cons_iff, Token.not_mem_numbersOf_nil,
      or_false]
    omega
  · apply unique
    · exact ⟨by decide, by simp [Run.Separated]⟩
    · intro number
      simp only [Run.covers_cons_iff, Run.not_covers_nil,
        Token.mem_numbersOf_cons_iff, Token.not_mem_numbersOf_nil,
        or_false]
      omega

end Sequence

end MediaHash
