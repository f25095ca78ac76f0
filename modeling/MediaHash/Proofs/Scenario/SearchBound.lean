import MediaHash.Proofs.Scenario.SequenceRun
import MediaHash.Proofs.Sequence.DistinctNames

/-!
# How long a search for names can be

Every name that is found in an output is a piece of one of its lines, and no
name is looked for twice if the pattern has a mark.  The search therefore
ends, at the latest, when all pieces of lines are used up and one more name
is not among them.  How many numbers the sequence has does not matter.

A search that breaks off has made no more names than there are such pieces.
-/

namespace MediaHash

namespace Check

/-- The texts with at least one character that some line has as one piece. -/
def mentionable (output : String) : Set String :=
  {name | name ≠ "" ∧ Mentioned output name}

theorem finite_mentionable (output : String) :
    (mentionable output).Finite := by
  have pieces : {name | Mentioned output name} ⊆
      (((Text.linesOf output).flatMap fun line =>
        line.toList.sublists.map String.ofList).toFinset : Set String) := by
    rintro name ⟨line, isLine, before, after, split⟩
    have within : name.toList.Sublist line.toList := by
      rw [split]
      exact (List.infix_append before name.toList after).sublist
    rw [List.coe_toFinset]
    refine List.mem_flatMap.mpr ⟨line, isLine, List.mem_map.mpr
      ⟨name.toList, List.mem_sublists.mpr within, String.ofList_toList⟩⟩
  apply (Finset.finite_toSet _).subset
  intro name isMentionable
  exact pieces isMentionable.2

variable {output : String}

theorem length_le_ncard_mentionable {names : List String}
    (nodup : names.Nodup) (nonempty : ∀ name ∈ names, name ≠ "")
    (mentioned : ∀ name ∈ names, Mentioned output name) :
    names.length ≤ (mentionable output).ncard := by
  rw [← ncard_eq_length {name | name ∈ names} nodup fun _ => Iff.rfl]
  apply Set.ncard_le_ncard _ (finite_mentionable output)
  intro name member
  exact ⟨nonempty name member, mentioned name member⟩

theorem Searched.length_le {names : List String} {verdicts : List Verdict}
    (searched : Searched output names verdicts) (nodup : names.Nodup)
    (nonempty : ∀ name ∈ names, name ≠ "") :
    verdicts.length ≤ (mentionable output).ncard + 1 := by
  cases searched with
  | complete mentioned =>
      rw [List.length_map]
      apply Nat.le_add_right_of_le
      exact length_le_ncard_mentionable nodup nonempty mentioned
  | @cut before after name mentioned missing =>
      rw [List.length_append, List.length_map]
      apply Nat.add_le_add_right
      apply length_le_ncard_mentionable nodup.of_append_left _ mentioned
      intro other member
      exact nonempty other (List.mem_append_left _ member)

end Check

namespace SequenceRun

open Check

theorem judge_length_le {subject : SequenceRun} {pattern : String}
    (given : subject.pattern = some pattern) (marked : HasMark pattern)
    {criteria : Criteria} {report : Report}
    (judged : subject.judge criteria = some report) :
    report.verdicts.length ≤ 2 + (mentionable subject.output).ncard := by
  cases outcome : Sequence.readContiguous subject.spec with
  | error fault =>
      rw [judge_of_readContiguous_error criteria outcome] at judged
      cases judged
      show 1 ≤ 2 + (mentionable subject.output).ncard
      omega
  | ok sequence =>
      have wellFormed := Sequence.wellFormed_of_read
        (Sequence.read_of_readContiguous outcome)
      rcases namesJudged_of_judge criteria outcome judged with
        ⟨verdicts, names, isReport⟩
      unfold NamesJudged at names
      simp only [given] at names
      have bounded := names.length_le (wellFormed.nodup_names marked)
        (wellFormed.name_ne_empty marked)
      rw [isReport, List.length_cons]
      omega

/-- The names that are found before the search breaks off are mentionable. -/
theorem length_le_of_breaksOff {output pattern : String}
    (marked : HasMark pattern) {sequence : Sequence}
    {before after : List PaddedNumber}
    (split : sequence.walk = before ++ after)
    (mentioned : ∀ earlier ∈ before,
      Mentioned output (earlier.name (cutPattern pattern.toList))) :
    before.length ≤ (mentionable output).ncard := by
  have several := one_lt_length_cutPattern marked
  have nodup : (sequence.walk.map PaddedNumber.number).Nodup :=
    PaddedNumber.nodup_map_keepNew [] _
  rw [split, List.map_append] at nodup
  have distinct := PaddedNumber.nodup_map_name several nodup.of_append_left
  rw [← List.length_map (PaddedNumber.name (cutPattern pattern.toList))]
  apply length_le_ncard_mentionable distinct
  · rw [List.forall_mem_map]
    intro padded member
    exact padded.name_ne_empty several
  · rwa [List.forall_mem_map]

/--
A run whose pattern has a mark gets at most two verdicts more than there are
different pieces of the lines of its output, under any criteria, if it gets a
report.  If it gets none, its search came to a number beyond padding, with no
more numbers in front of it than there are such pieces.
-/
theorem judge_bounded_by_output {subject : SequenceRun} {pattern : String}
    (given : subject.pattern = some pattern) (marked : HasMark pattern)
    (criteria : Criteria) :
    (mentionable subject.output).Finite ∧
      ((∃ report,
        (Scenario.sequenceRun subject).judge criteria =
          some (.ok report) ∧
        report.verdicts.length ≤
          2 + (mentionable subject.output).ncard) ∨
      (Scenario.sequenceRun subject).judge criteria = none ∧
        ∃ sequence before padded after,
          Sequence.readContiguous subject.spec = .ok sequence ∧
          sequence.walk = before ++ padded :: after ∧
          Text.widestPadding < padded.width ∧
          before.length ≤ (mentionable subject.output).ncard) := by
  refine ⟨finite_mentionable subject.output, ?_⟩
  cases judged : subject.judge criteria with
  | some report =>
      exact .inl ⟨report, congrArg (Option.map Except.ok) judged,
        judge_length_le given marked judged⟩
  | none =>
      refine .inr ⟨congrArg (Option.map Except.ok) judged, ?_⟩
      cases outcome : Sequence.readContiguous subject.spec with
      | error fault =>
          rw [judge_of_readContiguous_error criteria outcome] at judged
          cases judged
      | ok sequence =>
          rcases (judge_eq_none_iff criteria outcome).mp judged with
            ⟨_, isGiven, before, padded, after, split, wide, mentioned⟩
          cases given.symm.trans isGiven
          exact ⟨sequence, before, padded, after, rfl, split, wide,
            length_le_of_breaksOff marked split mentioned⟩

/-- A run over billions of files that has written the names of two. -/
def shortRun : SequenceRun :=
  ⟨"0-4000000000", 0, "f0\nf1\n", some "f\x7bN\x7d"⟩

/-- The search ends at the third of the names. -/
theorem shortRun_bounded_by_output :
    shortRun.pattern = some "f\x7bN\x7d" ∧ HasMark "f\x7bN\x7d" ∧
      (mentionable shortRun.output).Finite ∧
      (∃ report,
        (Scenario.sequenceRun shortRun).judge .standard =
            some (.ok report) ∧
          report.verdicts.length ≤
            2 + (mentionable shortRun.output).ncard) ∧
      shortRun.judge .standard =
        some ⟨[.matched .exitCode none, found "f0", found "f1",
          notFound "f2"]⟩ := by
  have marked : HasMark "f\x7bN\x7d" := ⟨['f'], [], by decide⟩
  have given : shortRun.pattern = some "f\x7bN\x7d" := rfl
  have judged : shortRun.judge .standard =
      some ⟨[.matched .exitCode none, found "f0", found "f1",
        notFound "f2"]⟩ := by
    decide +kernel
  rcases judge_bounded_by_output given marked .standard with
    ⟨finite, bounded | ⟨nothing, -⟩⟩
  · exact ⟨given, marked, finite, bounded, judged⟩
  · rw [Scenario.judge, judged] at nothing
    cases nothing

/-- A run over more zeros than can be padded, with one line written. -/
def wideRunWithLine : SequenceRun :=
  ⟨Sequence.zeros 65536, 0, "f\n", some "f\x7bN\x7d"⟩

/-- The pattern has a mark, and yet there are not even few verdicts. -/
theorem wideRunWithLine_has_no_verdicts :
    wideRunWithLine.pattern = some "f\x7bN\x7d" ∧
      HasMark "f\x7bN\x7d" ∧
      ¬ ∃ report, (Scenario.sequenceRun wideRunWithLine).judge .standard =
        some (.ok report) := by
  refine ⟨rfl, ⟨['f'], [], by decide⟩, ?_⟩
  rintro ⟨report, isReport⟩
  have nothing := judge_zeros .standard (Nat.lt_succ_self _) 0 "f\n"
    "f\x7bN\x7d"
  cases nothing.symm.trans isReport

end SequenceRun

end MediaHash
