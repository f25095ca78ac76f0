import MediaHash.Proofs.Check.Searching
import MediaHash.Scenario

/-!
# Runs that should fail

A run that should fail because of a size, a digest or a missing file is judged
by its exit status, by whether a line of its output mentions the path, and by
the lines that are listed, in this order.  A run that should end with any
other status is refused.

Of the criteria, only the number of the status that is expected counts.
-/

namespace MediaHash

namespace Check

/-! ## Passing searches -/

/-- Every listed line is there and has its substring as one piece. -/
def AllSearched (text : String) (expected : List LineSubstring) : Prop :=
  ∀ entry ∈ expected, ∀ index ∈ entry.lines,
    ∃ line, (Text.linesOf text)[index]? = some line ∧
      entry.substring.toList <:+: line.toList

theorem all_lineSubstrings_iff {text : String}
    {expected : List LineSubstring} :
    (lineSubstrings text expected).all Verdict.isMatch = true ↔
      AllSearched text expected := by
  simp only [AllSearched, lineSubstrings, List.all_eq_true,
    List.forall_mem_flatMap, List.forall_mem_map,
    (lineSearched_lineSubstring _ _ _).isMatch]

theorem length_lineSubstrings (text : String)
    (expected : List LineSubstring) :
    (lineSubstrings text expected).length =
      (expected.flatMap LineSubstring.lines).length := by
  simp [lineSubstrings, List.length_flatMap]

end Check

namespace FailureRun

open Check

/-- The statuses of a verification that failed. -/
def failures : List ExitCode :=
  [.fileSizeMismatch, .hashMismatch, .noSuchFile]

theorem isVerificationFailure_iff {status : ExitCode} :
    status.isVerificationFailure = true ↔ status ∈ failures := by
  cases status <;> decide

variable {subject : FailureRun} {criteria other : Criteria}

/-- The verdicts on a run that is not refused. -/
def verdicts (subject : FailureRun) (criteria : Criteria) : List Verdict :=
  exitNumber (criteria.exitNumber subject.expected) subject.exitCode ::
    mention subject.output subject.path ::
    lineSubstrings subject.output subject.lines

theorem judge_of_mem_failures (isFailure : subject.expected ∈ failures) :
    (Scenario.sizeOrHashFailure subject).judge criteria =
      some (.ok ⟨subject.verdicts criteria⟩) :=
  congrArg some (if_pos (isVerificationFailure_iff.mpr isFailure))

theorem judge_of_not_mem_failures
    (noFailure : subject.expected ∉ failures) :
    (Scenario.sizeOrHashFailure subject).judge criteria =
      some (.error (.internal (subject.expected.text ++
        " is not a size, hash or missing-file failure"))) :=
  congrArg some (if_neg fun isFailure =>
    noFailure (isVerificationFailure_iff.mp isFailure))

theorem judge_eq_error_iff :
    (∃ fault, (Scenario.sizeOrHashFailure subject).judge criteria =
      some (.error fault)) ↔ subject.expected ∉ failures := by
  constructor
  · rintro ⟨fault, refused⟩ isFailure
    rw [judge_of_mem_failures isFailure] at refused
    cases refused
  · intro noFailure
    exact ⟨_, judge_of_not_mem_failures noFailure⟩

/-- The run ended with its number, mentions the path and has the lines. -/
structure Confirmed (subject : FailureRun) (criteria : Criteria) : Prop where
  status : subject.exitCode = criteria.exitNumber subject.expected
  mentioned : Mentioned subject.output subject.path
  searched : AllSearched subject.output subject.lines

theorem all_verdicts_iff :
    (subject.verdicts criteria).all Verdict.isMatch = true ↔
      subject.Confirmed criteria := by
  rw [verdicts, List.all_cons, List.all_cons, Bool.and_eq_true,
    Bool.and_eq_true, (exitJudged_exitNumber _ _).isMatch,
    (mentionJudged_mention _ _).isMatch, all_lineSubstrings_iff]
  constructor
  · rintro ⟨status, mentioned, searched⟩
    exact ⟨status, mentioned, searched⟩
  · rintro ⟨status, mentioned, searched⟩
    exact ⟨status, mentioned, searched⟩

theorem length_verdicts :
    (subject.verdicts criteria).length =
      2 + (subject.lines.flatMap LineSubstring.lines).length := by
  rw [verdicts, List.length_cons, List.length_cons, length_lineSubstrings]
  omega

/-- Criteria with the same override for the status judge the run alike. -/
theorem judge_congr
    (same : criteria.exitCodes.lookup subject.expected =
      other.exitCodes.lookup subject.expected) :
    (Scenario.sizeOrHashFailure subject).judge criteria =
      (Scenario.sizeOrHashFailure subject).judge other := by
  have sameNumber : criteria.exitNumber subject.expected =
      other.exitNumber subject.expected := by
    rw [Criteria.exitNumber, same, Criteria.exitNumber]
  rw [Scenario.judge, Scenario.judge, judge, judge, sameNumber]

/--
A run is refused exactly if it should not end with a failed verification.  Any
other gets a verdict on its exit status, one on the mention of its path and one
on each listed line, and it passes exactly if it ended with the number of its
status, mentions the path and has every substring in its line.  Nothing in the
criteria counts but the override for the status.
-/
theorem judge_confirms (subject : FailureRun) (criteria : Criteria) :
    ((∃ fault, (Scenario.sizeOrHashFailure subject).judge criteria =
        some (.error fault)) ↔ subject.expected ∉ failures) ∧
    (subject.expected ∈ failures →
      ∃ report,
        (Scenario.sizeOrHashFailure subject).judge criteria =
          some (.ok report) ∧
        report.verdicts.length =
          2 + (subject.lines.flatMap LineSubstring.lines).length ∧
        (∃ ended mentioned searched,
          report.verdicts = ended :: mentioned :: searched ∧
          ExitJudged (criteria.exitNumber subject.expected)
            subject.exitCode ended ∧
          MentionJudged subject.output subject.path mentioned ∧
          PlacesSearched subject.output subject.lines searched) ∧
        (report.passed = true ↔ subject.Confirmed criteria)) ∧
    ∀ other : Criteria,
      criteria.exitCodes.lookup subject.expected =
          other.exitCodes.lookup subject.expected →
        (Scenario.sizeOrHashFailure subject).judge criteria =
          (Scenario.sizeOrHashFailure subject).judge other := by
  refine ⟨judge_eq_error_iff, ?_, fun other => judge_congr⟩
  intro isFailure
  refine ⟨_, judge_of_mem_failures isFailure, length_verdicts, ?_,
    all_verdicts_iff⟩
  exact ⟨_, _, _, rfl, exitJudged_exitNumber _ _, mentionJudged_mention _ _,
    placesSearched_lineSubstrings _ _⟩

/-- A run that ended with a number of its own, as the criteria may say. -/
def remappedRun : FailureRun :=
  ⟨.hashMismatch, 42, "hash check failed for clip.mov", "clip.mov",
    [⟨[0], "hash check failed"⟩]⟩

/-- The criteria that say so, and others that agree on nothing else. -/
theorem remappedRun_confirmed :
    remappedRun.expected ∈ failures ∧
      (∃ report,
        (Scenario.sizeOrHashFailure remappedRun).judge
            (Criteria.standard.remap .hashMismatch 42) =
              some (.ok report) ∧
          report.verdicts.length = 3 ∧ report.passed = true) ∧
      (Scenario.sizeOrHashFailure remappedRun).judge
          (Criteria.standard.remap .hashMismatch 42) =
        (Scenario.sizeOrHashFailure remappedRun).judge
          ⟨false, false, [(.success, 1), (.hashMismatch, 42)]⟩ := by
  have isFailure : remappedRun.expected ∈ failures := by decide
  rcases judge_confirms remappedRun
      (Criteria.standard.remap .hashMismatch 42) with
    ⟨-, accepted, congr⟩
  rcases accepted isFailure with ⟨report, judged, size, -, passes⟩
  refine ⟨isFailure, ⟨report, judged, size, passes.mpr ?_⟩,
    congr ⟨false, false, [(.success, 1), (.hashMismatch, 42)]⟩ rfl⟩
  refine ⟨rfl, mentions_linesOf_iff.mp (by decide),
    all_lineSubstrings_iff.mp (by decide)⟩

end FailureRun

end MediaHash
