import MediaHash.Proofs.Check.Captured
import MediaHash.Proofs.Sequence.Naming
import MediaHash.Proofs.Sequence.Writing
import MediaHash.Scenario

/-!
# Runs over sequences

A run over a sequence that cannot be read, or that leaves out a number, is
judged by its exit status alone.  Any other run is judged by its exit status
and by the names that it has written, which are looked for in their order up
to the first that is missing.

The names are made as the search comes to them.  No report is given on a run
whose search comes to a number that is beyond padding.
-/

namespace MediaHash.SequenceRun

open Check

/-! ## The search over a sequence -/

/-- The search in one stretch goes on exactly if there is no mismatch. -/
theorem mentionNumbers_snd (lines : List String) (name : Nat → String)
    (number count : Nat) :
    (mentionNumbers lines name number count).2 =
      (mentionNumbers lines name number count).1.all Verdict.isMatch := by
  induction count generalizing number with
  | zero => rfl
  | succ count ih =>
      rw [mentionNumbers]
      split
      next present =>
        rw [mentionIn_of_mentions present]
        exact ih (number + 1)
      next absent =>
        rw [mentionIn_of_not_mentions absent]
        rfl

theorem searched_mentionNumbers (output : String) (name : Nat → String)
    (number count : Nat) :
    Searched output ((List.range' number count).map name)
      (mentionNumbers (Text.linesOf output) name number count).1 := by
  induction count generalizing number with
  | zero => exact .nil
  | succ count ih =>
      rw [List.range'_succ, List.map_cons, mentionNumbers]
      split
      next present =>
        rw [mentionIn_of_mentions present]
        exact .cons_found (mentions_linesOf_iff.mp present) (ih (number + 1))
      next absent =>
        rw [mentionIn_of_not_mentions absent]
        refine .cons_notFound ?_
        rwa [← mentions_linesOf_iff]

theorem searched_mentionStretches {output pattern : String}
    {stretches : List Stretch} {verdicts : List Verdict}
    (judged : mentionStretches (Text.linesOf output) pattern stretches =
      some verdicts) :
    Searched output (stretches.flatMap (Stretch.names pattern)) verdicts := by
  induction stretches generalizing verdicts with
  | nil =>
      cases judged
      exact .nil
  | cons stretch rest ih =>
      have here := searched_mentionNumbers output (stretch.name pattern)
        stretch.run.first stretch.run.count
      rw [mentionStretches] at judged
      simp only [mentionNumbers_snd] at judged
      rw [List.flatMap_cons]
      split at judged
      next able =>
        split at judged
        next allMatch =>
          rcases Option.map_eq_some_iff.mp judged with ⟨more, later, rfl⟩
          exact here.append allMatch (ih later)
        next mismatch =>
          cases judged
          exact here.append_of_mismatch mismatch
      next unable => cases judged

/-- The names of a sequence are looked for in the order of the names. -/
theorem searched_mentionNames {output : String} {sequence : Sequence}
    {pattern : String} {verdicts : List Verdict}
    (judged : mentionNames output sequence pattern = some verdicts) :
    Searched output (sequence.names pattern) verdicts :=
  searched_mentionStretches judged

/-! ## Where the search breaks off -/

/--
The search comes to a number that is beyond padding, as the names of all
numbers in front of it are mentioned.
-/
def ComesToExcess (output : String) (parts : List (List Char))
    (walk : List PaddedNumber) : Prop :=
  ∃ before padded after, walk = before ++ padded :: after ∧
    Text.widestPadding < padded.width ∧
    ∀ earlier ∈ before, Mentioned output (earlier.name parts)

section Excess

variable {output : String} {parts : List (List Char)}

theorem not_comesToExcess_nil : ¬ ComesToExcess output parts [] := by
  rintro ⟨before, padded, after, split, -⟩
  cases List.append_ne_nil_of_right_ne_nil before
    (List.cons_ne_nil padded after) split.symm

theorem comesToExcess_cons_iff {padded : PaddedNumber}
    {rest : List PaddedNumber} :
    ComesToExcess output parts (padded :: rest) ↔
      Text.widestPadding < padded.width ∨
        Mentioned output (padded.name parts) ∧
          ComesToExcess output parts rest := by
  constructor
  · rintro ⟨before, excess, after, split, wide, mentioned⟩
    cases before with
    | nil =>
        cases split
        exact .inl wide
    | cons first before =>
        cases split
        rcases List.forall_mem_cons.mp mentioned with ⟨here, later⟩
        exact .inr ⟨here, before, excess, after, rfl, wide, later⟩
  · rintro (wide | ⟨here, before, excess, after, rfl, wide, later⟩)
    · exact ⟨[], padded, rest, rfl, wide, List.forall_mem_nil _⟩
    · exact ⟨padded :: before, excess, after, rfl, wide,
        List.forall_mem_cons.mpr ⟨here, later⟩⟩

/-- Numbers that can be padded are passed if their names are mentioned. -/
theorem comesToExcess_append_iff {front rest : List PaddedNumber}
    (able : ∀ padded ∈ front, padded.width ≤ Text.widestPadding) :
    ComesToExcess output parts (front ++ rest) ↔
      (∀ padded ∈ front, Mentioned output (padded.name parts)) ∧
        ComesToExcess output parts rest := by
  induction front with
  | nil => simp
  | cons padded front ih =>
      rcases List.forall_mem_cons.mp able with ⟨narrow, later⟩
      rw [List.cons_append, comesToExcess_cons_iff, ih later,
        List.forall_mem_cons, and_assoc,
        or_iff_right (Nat.not_lt.mpr narrow)]

/-- A stretch beyond padding is not passed: its first number is in the way. -/
theorem comesToExcess_of_not_canPad {stretch : Stretch}
    (nonempty : 0 < stretch.run.count) (unable : ¬ stretch.canPad = true)
    (rest : List PaddedNumber) :
    ComesToExcess output parts (stretch.paddedNumbers ++ rest) := by
  have holds : stretch.paddedNumbers ≠ [] := by
    apply List.ne_nil_of_length_pos
    rwa [Stretch.length_paddedNumbers]
  rcases List.exists_cons_of_ne_nil holds with ⟨first, others, split⟩
  have width : first.width = stretch.width :=
    Stretch.width_of_mem_paddedNumbers (split ▸ List.mem_cons_self)
  rw [split, List.cons_append, comesToExcess_cons_iff, width]
  exact .inl (Text.canPad_eq_false_iff.mp (Bool.eq_false_iff.mpr unable))

end Excess

theorem all_isMatch_mentionNumbers_iff (output pattern : String)
    (stretch : Stretch) :
    (mentionNumbers (Text.linesOf output) (stretch.name pattern)
        stretch.run.first stretch.run.count).1.all Verdict.isMatch = true ↔
      ∀ padded ∈ stretch.paddedNumbers,
        Mentioned output (padded.name (cutPattern pattern.toList)) := by
  have searched := searched_mentionNumbers output (stretch.name pattern)
    stretch.run.first stretch.run.count
  rw [searched.all_isMatch_iff, ← Run.members, ← Stretch.names,
    Stretch.names_eq_map, List.forall_mem_map]

theorem mentionStretches_eq_none_iff {output pattern : String}
    {stretches : List Stretch}
    (nonempty : ∀ stretch ∈ stretches, 0 < stretch.run.count) :
    mentionStretches (Text.linesOf output) pattern stretches = none ↔
      ComesToExcess output (cutPattern pattern.toList)
        (stretches.flatMap Stretch.paddedNumbers) := by
  induction stretches with
  | nil =>
      exact iff_of_false (Option.some_ne_none _) not_comesToExcess_nil
  | cons stretch rest ih =>
      rcases List.forall_mem_cons.mp nonempty with ⟨here, later⟩
      rw [mentionStretches, List.flatMap_cons]
      simp only [mentionNumbers_snd]
      split
      next able =>
        have narrow : ∀ padded ∈ stretch.paddedNumbers,
            padded.width ≤ Text.widestPadding := by
          intro padded member
          rw [Stretch.width_of_mem_paddedNumbers member]
          exact Text.canPad_iff.mp able
        rw [comesToExcess_append_iff narrow,
          ← all_isMatch_mentionNumbers_iff]
        split
        next allMatch =>
          rw [Option.map_eq_none_iff, ih later, and_iff_right allMatch]
        next mismatch =>
          exact iff_of_false (Option.some_ne_none _)
            fun comes => mismatch comes.1
      next unable =>
        exact iff_of_true rfl (comesToExcess_of_not_canPad here unable _)

theorem mentionNames_eq_none_iff {sequence : Sequence}
    (wellFormed : sequence.WellFormed) {output pattern : String} :
    mentionNames output sequence pattern = none ↔
      ComesToExcess output (cutPattern pattern.toList) sequence.walk := by
  rw [mentionNames, mentionStretches_eq_none_iff wellFormed.count_pos,
    wellFormed.flatMap_stretches]

/-! ## The report -/

/-- The verdicts on names: none without a pattern. -/
def NamesJudged (subject : SequenceRun) (sequence : Sequence)
    (verdicts : List Verdict) : Prop :=
  match subject.pattern with
  | none => verdicts = []
  | some pattern =>
      Searched subject.output (sequence.names pattern) verdicts

/-- Names are looked for, and the search comes to one that cannot be made. -/
def BreaksOff (subject : SequenceRun) (sequence : Sequence) : Prop :=
  ∃ pattern, subject.pattern = some pattern ∧
    ComesToExcess subject.output (cutPattern pattern.toList) sequence.walk

/-- Every name that the run should have written is mentioned. -/
def AllMentioned (subject : SequenceRun) (sequence : Sequence) : Prop :=
  ∀ pattern, subject.pattern = some pattern →
    ∀ name ∈ sequence.names pattern, Mentioned subject.output name

section Judging

variable {subject : SequenceRun} (criteria : Criteria)

theorem NamesJudged.all_isMatch_iff {sequence : Sequence}
    {verdicts : List Verdict}
    (judged : subject.NamesJudged sequence verdicts) :
    verdicts.all Verdict.isMatch = true ↔ subject.AllMentioned sequence := by
  unfold NamesJudged at judged
  unfold AllMentioned
  cases given : subject.pattern with
  | none =>
      rw [given] at judged
      simp [judged]
  | some pattern =>
      rw [given] at judged
      simp [judged.all_isMatch_iff]

theorem NamesJudged.isMatch_of_mem_dropLast {sequence : Sequence}
    {verdicts : List Verdict}
    (judged : subject.NamesJudged sequence verdicts)
    {verdict : Verdict} (early : verdict ∈ verdicts.dropLast) :
    verdict.isMatch = true := by
  unfold NamesJudged at judged
  cases given : subject.pattern with
  | none =>
      rw [given] at judged
      simp [judged] at early
  | some pattern =>
      rw [given] at judged
      exact judged.isMatch_of_mem_dropLast early

theorem judge_of_readContiguous_error {fault : SequenceFault}
    (failure : Sequence.readContiguous subject.spec = .error fault) :
    subject.judge criteria =
      some ⟨[exitNumber (criteria.exitNumber fault.exitCode)
        subject.exitCode]⟩ := by
  rw [judge, failure]

theorem judge_eq_none_iff {sequence : Sequence}
    (success : Sequence.readContiguous subject.spec = .ok sequence) :
    subject.judge criteria = none ↔ subject.BreaksOff sequence := by
  have wellFormed := Sequence.wellFormed_of_read
    (Sequence.read_of_readContiguous success)
  rw [judge, success, BreaksOff]
  simp only [Option.map_eq_none_iff, judgeNames]
  cases subject.pattern with
  | none => simp
  | some pattern => simp [mentionNames_eq_none_iff wellFormed]

theorem not_breaksOff_of_narrow {sequence : Sequence}
    (narrow : ∀ token ∈ sequence.tokens,
      token.width ≤ Text.widestPadding) :
    ¬ subject.BreaksOff sequence := by
  rintro ⟨pattern, -, before, padded, after, split, wide, -⟩
  have member : padded ∈ sequence.walk := by
    rw [split]
    exact List.mem_append_right before List.mem_cons_self
  exact absurd (Sequence.width_le_of_mem_walk narrow member)
    (Nat.not_le.mpr wide)

/-- More zeros than can be padded are not reported on. -/
theorem judge_zeros {width : Nat} (wide : Text.widestPadding < width + 1)
    (exitCode : Int) (output pattern : String) :
    (Scenario.sequenceRun ⟨Sequence.zeros (width + 1), exitCode, output,
      some pattern⟩).judge criteria = none := by
  have unable : Stretch.canPad ⟨width + 1, ⟨0, 0⟩⟩ = false :=
    Text.canPad_eq_false_iff.mpr wide
  simp [Scenario.judge, judge, judgeNames, Sequence.readContiguous_zeros,
    mentionNames, Sequence.stretches_zero, mentionStretches, unable]

theorem namesJudged_of_judge {sequence : Sequence} {report : Report}
    (success : Sequence.readContiguous subject.spec = .ok sequence)
    (judged : subject.judge criteria = some report) :
    ∃ verdicts, subject.NamesJudged sequence verdicts ∧
      report.verdicts =
        exitNumber (criteria.exitNumber .success) subject.exitCode ::
          verdicts := by
  rw [judge, success] at judged
  rcases Option.map_eq_some_iff.mp judged with ⟨verdicts, mentions, rfl⟩
  refine ⟨verdicts, ?_, rfl⟩
  unfold NamesJudged
  rw [judgeNames] at mentions
  split at mentions
  next pattern given =>
    rw [given]
    exact searched_mentionNames mentions
  next given =>
    rw [given]
    exact (Option.some.inj mentions).symm

end Judging

/--
A run over a text that is no sequence, or over a sequence with a gap, gets
one verdict, on its exit status.  Any other run gets one on its exit status
and one on each name up to the first that is missing, and it passes exactly
if no name at all is missing, unless the search breaks off.  It never breaks
off if all tokens can be padded.
-/
theorem judge_searches (subject : SequenceRun) (criteria : Criteria) :
    match Sequence.readContiguous subject.spec with
    | .error (.invalidSyntax _ _) =>
        ∃ report verdict,
          (Scenario.sequenceRun subject).judge criteria =
            some (.ok report) ∧
          report.verdicts = [verdict] ∧
          ExitJudged (criteria.exitNumber .invalidSequence)
            subject.exitCode verdict
    | .error (.gap _ _ _) =>
        ∃ report verdict,
          (Scenario.sequenceRun subject).judge criteria =
            some (.ok report) ∧
          report.verdicts = [verdict] ∧
          ExitJudged (criteria.exitNumber .gapInSequence)
            subject.exitCode verdict
    | .ok sequence =>
        ((Scenario.sequenceRun subject).judge criteria = none ↔
          subject.BreaksOff sequence) ∧
        ((∀ token ∈ sequence.tokens, token.width ≤ Text.widestPadding) →
          ¬ subject.BreaksOff sequence) ∧
        (¬ subject.BreaksOff sequence →
          ∃ report verdict mentions,
            (Scenario.sequenceRun subject).judge criteria =
              some (.ok report) ∧
            report.verdicts = verdict :: mentions ∧
            ExitJudged (criteria.exitNumber .success) subject.exitCode
              verdict ∧
            subject.NamesJudged sequence mentions ∧
            (∀ early ∈ mentions.dropLast, early.isMatch = true) ∧
            (report.passed = true ↔
              subject.exitCode = criteria.exitNumber .success ∧
                subject.AllMentioned sequence)) := by
  cases outcome : Sequence.readContiguous subject.spec with
  | error fault =>
      have single := judge_of_readContiguous_error criteria outcome
      cases fault with
      | invalidSyntax token reason =>
          exact ⟨_, _, congrArg (Option.map Except.ok) single, rfl,
            exitJudged_exitNumber _ _⟩
      | gap first last missing =>
          exact ⟨_, _, congrArg (Option.map Except.ok) single, rfl,
            exitJudged_exitNumber _ _⟩
  | ok sequence =>
      have breaksOff := judge_eq_none_iff criteria outcome
      refine ⟨Option.map_eq_none_iff.trans breaksOff,
        not_breaksOff_of_narrow, ?_⟩
      intro goesOn
      rcases Option.ne_none_iff_exists'.mp (mt breaksOff.mp goesOn) with
        ⟨report, isReport⟩
      rcases namesJudged_of_judge criteria outcome isReport with
        ⟨mentions, judged, verdicts⟩
      have exitJudged := exitJudged_exitNumber
        (criteria.exitNumber .success) subject.exitCode
      refine ⟨report, _, mentions, congrArg (Option.map Except.ok) isReport,
        verdicts, exitJudged, judged, ?_, ?_⟩
      · intro early member
        exact judged.isMatch_of_mem_dropLast member
      · rw [Report.passed, verdicts, List.all_cons, Bool.and_eq_true,
          exitJudged.isMatch, judged.all_isMatch_iff]

/-- A run over so many zeros that the number cannot be padded. -/
def wideRun : SequenceRun :=
  ⟨Sequence.zeros 65536, 0, "", some "f\x7bN\x7d"⟩

/-- The sequence is read and has no gap, and yet there is no report. -/
theorem wideRun_breaks_off :
    Sequence.readContiguous wideRun.spec =
        .ok (Sequence.ofTokens [⟨0, 0, 65536⟩]) ∧
      wideRun.exitCode = Criteria.standard.exitNumber .success ∧
      (Scenario.sequenceRun wideRun).judge .standard = none :=
  ⟨Sequence.readContiguous_zeros 65535, rfl,
    judge_zeros .standard (Nat.lt_succ_self _) 0 "" "f\x7bN\x7d"⟩

end MediaHash.SequenceRun
