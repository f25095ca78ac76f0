import Mathlib.Data.Set.Card
import MediaHash.Command.Run
import MediaHash.Proofs.Items.Steps
import MediaHash.Proofs.Sequence.Canonical
import MediaHash.Proofs.Sequence.Grammar

/-!
# The numbers of a sequence

Every question about a sequence is answered from its runs.  The answers are
those that its tokens call for, because the runs are canonical: they list the
numbers in order, they count each number once, and a second run means that
the number behind the first one is left out.  No count reaches the range in
which words of 64 bits would wrap around, nor does the number behind the
first of several runs reach that of words of 32 bits.

The main statement puts every text into one of three classes: it is not
grammatical, it leaves out a number between its least and its greatest, or it
is accepted.
-/

namespace MediaHash

/-- The numbers between two others that a set leaves out. -/
def gapsBetween (numbers : Set Nat) (least greatest : Nat) : Set Nat :=
  {number | least < number ∧ number < greatest ∧ number ∉ numbers}

/-- A list of the members of a set, each once, is as long as the set. -/
theorem ncard_eq_length {α : Type} [DecidableEq α] (values : Set α)
    {listed : List α} (nodup : listed.Nodup)
    (mem_iff : ∀ value, value ∈ listed ↔ value ∈ values) :
    values.ncard = listed.length := by
  have same : values = (listed.toFinset : Set α) := by
    ext value
    simp [mem_iff]
  rw [same, Set.ncard_coe_finset, List.toFinset_card_of_nodup nodup]

/-! ## Members of runs -/

namespace Run

theorem length_membersOf (runs : List Run) :
    (membersOf runs).length = (runs.map count).sum := by
  rw [membersOf, List.length_flatMap]
  simp only [length_members]

namespace Canonical

variable {run : Run} {rest runs : List Run}

theorem sublist (canonical : Canonical runs) {part : List Run}
    (within : part.Sublist runs) : Canonical part := by
  constructor
  · intro run member
    exact canonical.inOrder run (within.subset member)
  · exact canonical.separated.sublist within

theorem ncard_covers (canonical : Canonical runs) :
    {number | Covers runs number}.ncard = (runs.map count).sum := by
  have nodup : (membersOf runs).Nodup :=
    canonical.pairwise_membersOf.imp fun below => Nat.ne_of_lt below
  rw [ncard_eq_length {number | Covers runs number} nodup
    fun number => mem_membersOf_iff, length_membersOf]

theorem sum_count_le (canonical : Canonical runs) {bound : Nat}
    (bounded : ∀ run ∈ runs, run.last ≤ bound) :
    (runs.map count).sum ≤ bound + 1 := by
  have within : {number | Covers runs number} ⊆
      (Finset.range (bound + 1) : Set Nat) := by
    rintro number ⟨run, member, holds⟩
    have bounds := contains_iff.mp holds
    have small := bounded run member
    exact Finset.mem_coe.mpr (Finset.mem_range.mpr (by omega))
  rw [← canonical.ncard_covers]
  calc {number | Covers runs number}.ncard
      ≤ (Finset.range (bound + 1) : Set Nat).ncard :=
        Set.ncard_le_ncard within (Finset.finite_toSet _)
    _ = bound + 1 := by
        rw [Set.ncard_coe_finset, Finset.card_range]

theorem isLeast_first (canonical : Canonical (run :: rest)) :
    IsLeast {number | Covers (run :: rest) number} run.first := by
  constructor
  · exact canonical.covers_first
  · intro number covered
    exact canonical.first_le covered

theorem isGreatest_last (canonical : Canonical runs)
    (final : runs.getLast? = some run) :
    IsGreatest {number | Covers runs number} run.last := by
  induction runs with
  | nil => cases final
  | cons head rest ih =>
      rcases canonical_cons_iff.mp canonical with ⟨inOrder, -⟩
      cases rest with
      | nil =>
          rcases Option.some.inj final with rfl
          constructor
          · exact covers_cons_iff.mpr (Or.inl ⟨inOrder, Nat.le_refl _⟩)
          · intro number covered
            rcases covers_cons_iff.mp covered with here | later
            · exact here.2
            · exact absurd later not_covers_nil
      | cons next rest =>
          rw [List.getLast?_cons_cons] at final
          rcases ih canonical.tail final with ⟨covered, upper⟩
          have behind := canonical.le_of_covers_tail covered
          constructor
          · exact covers_cons_iff.mpr (Or.inr covered)
          · intro number numberCovered
            rcases covers_cons_iff.mp numberCovered with here | later
            · omega
            · exact upper later

/-- The number behind the first of several runs is the first left out. -/
theorem isLeast_gap {next : Run} {greatest : Nat}
    (canonical : Canonical (run :: next :: rest))
    (isGreatest :
      IsGreatest {number | Covers (run :: next :: rest) number} greatest) :
    IsLeast
      (gapsBetween {number | Covers (run :: next :: rest) number}
        run.first greatest)
      (run.last + 1) := by
  rcases canonical_cons_iff.mp canonical with ⟨inOrder, apart, -⟩
  have behind := apart next List.mem_cons_self
  have nextCovered : Covers (run :: next :: rest) next.first :=
    covers_cons_iff.mpr (Or.inr canonical.tail.covers_first)
  have nextBelow : next.first ≤ greatest := isGreatest.2 nextCovered
  constructor
  · exact ⟨by omega, by omega, canonical.not_covers_after⟩
  · rintro number ⟨above, -, absent⟩
    by_contra within
    apply absent
    exact covers_cons_iff.mpr (Or.inl (by omega))

end Canonical

theorem gapsBetween_singleton (run : Run) :
    gapsBetween {number | Covers [run] number} run.first run.last = ∅ := by
  apply Set.eq_empty_of_forall_notMem
  rintro number ⟨above, below, absent⟩
  apply absent
  exact covers_cons_iff.mpr (Or.inl (by omega))

/-- A sum in words is the sum of the counts as far as the words reach. -/
theorem foldr_words_eq {runs : List Run}
    (inOrder : ∀ run ∈ runs, run.first ≤ run.last) :
    runs.foldr
        (fun run sum => (UInt64.size + run.last + 1 - run.first + sum) %
          UInt64.size) 0 =
      (runs.map count).sum % UInt64.size := by
  induction runs with
  | nil => rfl
  | cons run rest ih =>
      rcases List.forall_mem_cons.mp inOrder with ⟨headInOrder, restInOrder⟩
      have exact : UInt64.size + run.last + 1 - run.first =
          run.count + UInt64.size := by
        unfold count
        omega
      rw [List.foldr_cons, ih restInOrder, exact, List.map_cons,
        List.sum_cons, Nat.add_mod_mod, Nat.add_right_comm,
        Nat.add_mod_right]

end Run

/-! ## Sequences that have been read -/

theorem Token.Spells.inOrder {piece : List Char} {token : Token}
    (spells : Spells piece token) : token.low ≤ token.high := by
  cases spells with
  | number trims numeral => exact Nat.le_refl _
  | range _ _ _ _ _ _ ordered => exact ordered

theorem Token.Spells.high_le {piece : List Char} {token : Token}
    (spells : Spells piece token) : token.high ≤ 4294967295 := by
  cases spells with
  | number trims numeral => exact numeral.small
  | range _ _ _ _ _ highNumeral _ => exact highNumeral.small

namespace Sequence

/-- What reading guarantees of a sequence. -/
structure WellFormed (sequence : Sequence) : Prop where
  nonempty : sequence.tokens ≠ []
  inOrder : ∀ token ∈ sequence.tokens, token.low ≤ token.high
  small : ∀ token ∈ sequence.tokens, token.high ≤ 4294967295
  runs_eq : sequence.runs = (ofTokens sequence.tokens).runs

theorem spells_of_mem {pieces : List (List Char)} {tokens : List Token}
    (spells : List.Forall₂ Token.Spells pieces tokens) {token : Token}
    (member : token ∈ tokens) : ∃ piece, Token.Spells piece token := by
  induction spells with
  | nil => cases member
  | cons first rest ih =>
      rcases List.mem_cons.mp member with rfl | later
      · exact ⟨_, first⟩
      · exact ih later

/-- A text is read through tokens that its pieces spell, or blamed. -/
theorem read_cases (text : String) :
    (∃ tokens,
      List.Forall₂ Token.Spells (Text.pieces ',' text.toList) tokens ∧
        read text = .ok (ofTokens tokens)) ∨
      ∃ token reason, read text = .error (.invalidSyntax token reason) := by
  by_cases blank : Text.trimBlanks text.toList = []
  · exact Or.inr ⟨_, _, if_pos blank⟩
  · rw [read_of_visible blank]
    rcases readTokens_cases (Text.pieces ',' text.toList) with
      ⟨tokens, spells⟩ | ⟨_, _, _, _, -, -, -, failure⟩
    · left
      rw [readTokens_of_spells spells]
      exact ⟨tokens, spells, rfl⟩
    · right
      rw [failure]
      exact ⟨_, _, rfl⟩

theorem wellFormed_of_read {text : String} {sequence : Sequence}
    (success : read text = .ok sequence) : sequence.WellFormed := by
  rcases read_cases text with
    ⟨tokens, spells, readTokens⟩ | ⟨token, reason, failure⟩
  · rw [readTokens] at success
    cases success
    constructor
    · rintro rfl
      have noPieces := List.forall₂_nil_right_iff.mp spells
      exact (Text.pieces_joins ',' text.toList).nonempty noPieces
    · intro token member
      rcases spells_of_mem spells member with ⟨piece, pieceSpells⟩
      exact pieceSpells.inOrder
    · intro token member
      rcases spells_of_mem spells member with ⟨piece, pieceSpells⟩
      exact pieceSpells.high_le
    · rfl
  · rw [failure] at success
    cases success

/-- The numbers that at least one token of the sequence holds. -/
def numbers (sequence : Sequence) : Set Nat :=
  Token.numbersOf sequence.tokens

/-! ## Answers of a sequence that has been read -/

namespace WellFormed

variable {sequence : Sequence} (wellFormed : sequence.WellFormed)

include wellFormed

theorem canonical : Run.Canonical sequence.runs := by
  rw [wellFormed.runs_eq]
  exact canonical_runs wellFormed.inOrder

theorem covers_iff (number : Nat) :
    Run.Covers sequence.runs number ↔ number ∈ sequence.numbers := by
  rw [wellFormed.runs_eq]
  exact covers_runs_iff wellFormed.inOrder number

theorem setOf_covers :
    {number | Run.Covers sequence.runs number} = sequence.numbers := by
  ext number
  exact wellFormed.covers_iff number

theorem last_le : ∀ run ∈ sequence.runs, run.last ≤ 4294967295 := by
  intro run member
  rw [wellFormed.runs_eq] at member
  exact last_le_of_mem_runs wellFormed.inOrder wellFormed.small member

theorem exists_runs_eq_cons : ∃ run rest, sequence.runs = run :: rest := by
  rcases List.exists_mem_of_ne_nil _ wellFormed.nonempty with
    ⟨token, member⟩
  have held : token.low ∈ sequence.numbers :=
    ⟨token, member, Nat.le_refl _, wellFormed.inOrder token member⟩
  rcases (wellFormed.covers_iff token.low).mpr held with ⟨run, isRun, -⟩
  exact List.exists_cons_of_ne_nil (List.ne_nil_of_mem isRun)

theorem mem_members_iff (number : Nat) :
    number ∈ sequence.members ↔ number ∈ sequence.numbers := by
  rw [members, Run.mem_membersOf_iff, wellFormed.covers_iff]

theorem contains_iff_mem (number : Nat) :
    sequence.contains number = true ↔ number ∈ sequence.numbers := by
  rw [← wellFormed.covers_iff, contains, List.any_eq_true]
  rfl

theorem sum_count_le {initial : List Run}
    (isInitial : initial <+: sequence.runs) :
    (initial.map Run.count).sum ≤ 4294967296 := by
  have canonical := wellFormed.canonical.sublist isInitial.sublist
  apply canonical.sum_count_le
  intro run member
  exact wellFormed.last_le run (isInitial.subset member)

theorem size_eq_sum :
    sequence.size = (sequence.runs.map Run.count).sum := by
  have small := wellFormed.sum_count_le List.prefix_rfl
  rw [size, Run.foldr_words_eq wellFormed.canonical.inOrder]
  exact Nat.mod_eq_of_lt (Nat.lt_of_le_of_lt small (by decide))

theorem size_eq_ncard : sequence.size = sequence.numbers.ncard := by
  rw [wellFormed.size_eq_sum, ← wellFormed.canonical.ncard_covers,
    wellFormed.setOf_covers]

theorem one_le_size : 1 ≤ sequence.size := by
  rcases wellFormed.exists_runs_eq_cons with ⟨run, rest, shape⟩
  have inOrder : run.first ≤ run.last := by
    apply wellFormed.canonical.inOrder
    rw [shape]
    exact List.mem_cons_self
  rw [wellFormed.size_eq_sum, shape, List.map_cons, List.sum_cons, Run.count]
  omega

theorem exists_ends :
    ∃ least greatest, IsLeast sequence.numbers least ∧
      IsGreatest sequence.numbers greatest ∧
      sequence.first? = some least ∧ sequence.last? = some greatest := by
  rcases wellFormed.exists_runs_eq_cons with ⟨run, rest, shape⟩
  have canonical := wellFormed.canonical
  have nonempty : sequence.runs ≠ [] := by
    rw [shape]
    exact List.cons_ne_nil run rest
  have final := List.getLast?_eq_some_getLast nonempty
  refine ⟨run.first, (sequence.runs.getLast nonempty).last, ?_, ?_, ?_, ?_⟩
  · rw [← wellFormed.setOf_covers, shape]
    rw [shape] at canonical
    exact canonical.isLeast_first
  · rw [← wellFormed.setOf_covers]
    exact canonical.isGreatest_last final
  · rw [first?, shape]
    rfl
  · rw [last?, final]
    rfl

/-- One run leaves out no number, several leave out the one behind the first. -/
theorem gap_cases {least greatest : Nat}
    (isLeast : IsLeast sequence.numbers least)
    (isGreatest : IsGreatest sequence.numbers greatest) :
    (sequence.hasGap = false ∧ sequence.firstMissing? = none ∧
        gapsBetween sequence.numbers least greatest = ∅) ∨
      ∃ run, sequence.hasGap = true ∧ sequence.runs.head? = some run ∧
        sequence.firstMissing? = some (run.last + 1) ∧
        IsLeast (gapsBetween sequence.numbers least greatest)
          (run.last + 1) := by
  rcases wellFormed.exists_runs_eq_cons with ⟨run, rest, shape⟩
  have canonical := wellFormed.canonical
  have small := isGreatest.1
  rw [← wellFormed.setOf_covers, shape] at isLeast isGreatest ⊢
  rw [shape] at canonical
  have leastIsFirst : least = run.first :=
    isLeast.unique canonical.isLeast_first
  cases rest with
  | nil =>
      left
      have noGap : sequence.hasGap = false := by
        rw [hasGap, shape]
        rfl
      have greatestIsLast : greatest = run.last :=
        isGreatest.unique (canonical.isGreatest_last rfl)
      refine ⟨noGap, by rw [firstMissing?, noGap]; rfl, ?_⟩
      rw [leastIsFirst, greatestIsLast]
      exact Run.gapsBetween_singleton run
  | cons next rest =>
      right
      have gap : sequence.hasGap = true := by
        rw [hasGap, shape]
        simp
      rw [leastIsFirst]
      have isGap := canonical.isLeast_gap isGreatest
      have inWords : run.last + 1 < UInt32.size := by
        rcases small with ⟨token, member, -, below⟩
        have limit := wellFormed.small token member
        have belowGreatest := isGap.1.2.1
        rw [UInt32.size]
        omega
      refine ⟨run, gap, rfl, ?_, isGap⟩
      rw [firstMissing?, if_pos gap, shape, List.head?_cons, Option.map_some,
        Nat.mod_eq_of_lt inWords]

end WellFormed

/-- What the questions about a sequence answer, given its least and greatest. -/
structure Answers (sequence : Sequence) (least greatest : Nat) :
    Prop where
  isLeast : IsLeast sequence.numbers least
  isGreatest : IsGreatest sequence.numbers greatest
  greatest_le : greatest ≤ 4294967295
  members_ascend : sequence.members.Pairwise (· < ·)
  mem_members : ∀ number,
    number ∈ sequence.members ↔ number ∈ sequence.numbers
  contains : ∀ number,
    sequence.contains number = true ↔ number ∈ sequence.numbers
  size : sequence.size = sequence.numbers.ncard
  one_le_size : 1 ≤ sequence.size
  size_le : sequence.size ≤ 4294967296
  /-- No difference that the size adds up is taken below zero. -/
  runs_inOrder : ∀ run ∈ sequence.runs, run.first ≤ run.last
  /-- No sum on the way to the size leaves the words. -/
  sums_le : ∀ initial, initial <+: sequence.runs →
    (initial.map fun run => run.last - run.first + 1).sum ≤ 4294967296
  first : sequence.first? = some least
  last : sequence.last? = some greatest
  hasGap : sequence.hasGap = true ↔
    (gapsBetween sequence.numbers least greatest).Nonempty
  /-- The number behind the first run is within the words if it is missing. -/
  firstMissing : match sequence.firstMissing? with
    | none => gapsBetween sequence.numbers least greatest = ∅
    | some missing =>
        IsLeast (gapsBetween sequence.numbers least greatest) missing ∧
          ∃ run, sequence.runs.head? = some run ∧ missing = run.last + 1

theorem WellFormed.answers {sequence : Sequence} {least greatest : Nat}
    (wellFormed : sequence.WellFormed)
    (isLeast : IsLeast sequence.numbers least)
    (isGreatest : IsGreatest sequence.numbers greatest)
    (first : sequence.first? = some least)
    (last : sequence.last? = some greatest) :
    sequence.Answers least greatest where
  isLeast := isLeast
  isGreatest := isGreatest
  greatest_le := by
    rcases isGreatest.1 with ⟨token, member, -, below⟩
    exact Nat.le_trans below (wellFormed.small token member)
  members_ascend := wellFormed.canonical.pairwise_membersOf
  mem_members := wellFormed.mem_members_iff
  contains := wellFormed.contains_iff_mem
  size := wellFormed.size_eq_ncard
  one_le_size := wellFormed.one_le_size
  size_le := by
    rw [wellFormed.size_eq_sum]
    exact wellFormed.sum_count_le List.prefix_rfl
  runs_inOrder := wellFormed.canonical.inOrder
  sums_le := by
    intro initial isInitial
    have sums := wellFormed.sum_count_le isInitial
    have counts : initial.map Run.count =
        initial.map fun run => run.last - run.first + 1 := by
      apply List.map_congr_left
      intro run member
      have inOrder :=
        wellFormed.canonical.inOrder run (isInitial.subset member)
      rw [Run.count]
      omega
    rwa [counts] at sums
  first := first
  last := last
  hasGap := by
    rcases wellFormed.gap_cases isLeast isGreatest with
      ⟨noGap, -, none⟩ | ⟨run, gap, -, -, isGap⟩
    · simp [noGap, none]
    · simp only [gap, true_iff]
      exact ⟨_, isGap.1⟩
  firstMissing := by
    rcases wellFormed.gap_cases isLeast isGreatest with
      ⟨-, noneMissing, none⟩ | ⟨run, -, isHead, missing, isGap⟩
    · rw [noneMissing]
      exact none
    · rw [missing]
      exact ⟨isGap, run, isHead, rfl⟩

/-- The exit status of the command that reads the text as a sequence. -/
def EndsWith (text : String) (status : Int) : Prop :=
  ∀ files config pattern,
    (Command.execute files config (.sequence text pattern)).map
      Command.Result.exitStatus = .ok status

theorem endsWith_of_readContiguous_ok {text : String} {sequence : Sequence}
    (success : readContiguous text = .ok sequence) : EndsWith text 0 := by
  intro files config pattern
  simp only [Command.execute, success]
  rfl

theorem endsWith_of_readContiguous_error {text : String}
    {fault : SequenceFault} (failure : readContiguous text = .error fault) :
    EndsWith text fault.exitCode.number := by
  intro files config pattern
  simp only [Command.execute, failure]
  rfl

theorem isSyntax_of_read_error {text : String} {fault : SequenceFault}
    (failure : read text = .error fault) : fault.isSyntax = true := by
  rcases read_cases text with
    ⟨tokens, -, success⟩ | ⟨token, reason, invalid⟩
  · rw [success] at failure
    cases failure
  · rw [invalid] at failure
    cases failure
    rfl

theorem read_of_readContiguous {text : String} {sequence : Sequence}
    (success : readContiguous text = .ok sequence) :
    read text = .ok sequence := by
  rcases bind_eq_ok_iff.mp success with ⟨other, outcome, checked⟩
  split at checked
  next fault gap => cases checked
  next noGap =>
    cases checked
    exact outcome

/--
A text that is not grammatical is refused for its syntax.  In any other case
every question about the sequence is answered as its numbers demand, and the
sequence is refused, with its least number, its greatest and the first one
left out between them, exactly if a number is left out.
-/
theorem readContiguous_classifies (text : String) :
    match read text with
    | .error fault =>
        fault.isSyntax = true ∧ readContiguous text = .error fault ∧
          EndsWith text 22
    | .ok sequence =>
        ∃ least greatest, sequence.Answers least greatest ∧
          ((gapsBetween sequence.numbers least greatest = ∅ ∧
              readContiguous text = .ok sequence ∧ EndsWith text 0) ∨
            ∃ missing,
              IsLeast (gapsBetween sequence.numbers least greatest) missing ∧
                readContiguous text = .error (.gap least greatest missing) ∧
                EndsWith text 23) := by
  cases outcome : read text with
  | error fault =>
      have isSyntax := isSyntax_of_read_error outcome
      have failure : readContiguous text = .error fault := by
        rw [readContiguous, outcome]
        rfl
      refine ⟨isSyntax, failure, ?_⟩
      have ends := endsWith_of_readContiguous_error failure
      cases fault with
      | invalidSyntax token reason => exact ends
      | gap first last missing => cases isSyntax
  | ok sequence =>
      have wellFormed := wellFormed_of_read outcome
      rcases wellFormed.exists_ends with
        ⟨least, greatest, isLeast, isGreatest, first, last⟩
      refine ⟨least, greatest,
        wellFormed.answers isLeast isGreatest first last, ?_⟩
      rcases wellFormed.gap_cases isLeast isGreatest with
        ⟨-, noneMissing, none⟩ | ⟨run, -, -, missing, isGap⟩
      · left
        have success : readContiguous text = .ok sequence := by
          rw [readContiguous, outcome]
          simp only [bind, Except.bind, gap?, first, last, noneMissing]
        exact ⟨none, success, endsWith_of_readContiguous_ok success⟩
      · right
        have failure : readContiguous text =
            .error (.gap least greatest (run.last + 1)) := by
          rw [readContiguous, outcome]
          simp only [bind, Except.bind, gap?, first, last, missing]
        exact ⟨_, isGap, failure, endsWith_of_readContiguous_error failure⟩

end Sequence

end MediaHash
