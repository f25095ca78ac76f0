import MediaHash.Check.Exit
import MediaHash.Check.Lines
import MediaHash.Check.Manifest
import MediaHash.Sequence.Names

/-!
# Scenarios

A scenario holds what was captured of a run of the tool under test together
with what was expected of it.  Judging a scenario gives a report, unless a
captured input cannot be read at all, or the program breaks off because it is
asked for the name of a number that cannot be padded.
-/

namespace MediaHash

/-- The output of a reference tool beside that of the tool under test. -/
structure CrossTool where
  reference : String
  candidate : String
deriving DecidableEq, Repr

/-- A manifest beside the listing, sizes and counts expected of it. -/
structure ManifestContents where
  manifest : String
  /-- A listing of the digests that are expected. -/
  expectations : String
  sizes : List (String × Nat)
  tagCounts : List Check.TagCount
deriving DecidableEq, Repr

/-- A run over a sequence of files. -/
structure SequenceRun where
  spec : String
  /-- The exit status of the run. -/
  exitCode : Int
  /-- What the run wrote. -/
  output : String
  /-- The pattern of the names that a successful run must write. -/
  pattern : Option String
deriving DecidableEq, Repr

/-- A run that should fail because of a size, a digest or a missing file. -/
structure FailureRun where
  expected : ExitCode
  /-- The exit status of the run. -/
  exitCode : Int
  /-- What the run wrote. -/
  output : String
  /-- The path that the run must mention. -/
  path : String
  lines : List Check.LineSubstring
deriving DecidableEq, Repr

/-- What was captured and what was expected. -/
inductive Scenario where
  | crossTool (subject : CrossTool)
  | manifestContents (subject : ManifestContents)
  | sequenceRun (subject : SequenceRun)
  | sizeOrHashFailure (subject : FailureRun)
deriving DecidableEq, Repr

/-! ## Judging -/

/-- Compare the two outputs line by line. -/
def CrossTool.judge (subject : CrossTool) : Report :=
  ⟨Check.compareTexts subject.reference subject.candidate⟩

/-- What the listing and the sizes expect together. -/
def ManifestContents.table (subject : ManifestContents)
    (criteria : Criteria) : Expectations :=
  subject.sizes.foldl (fun table (path, size) => table.expectSize path size)
    (criteria.expectations (.read subject.expectations))

/-- Check the manifest against everything that is expected of it. -/
def ManifestContents.judge (subject : ManifestContents)
    (criteria : Criteria) : Except ManifestFault Report := do
  let manifest ← Manifest.read subject.manifest
  .ok ((Check.manifest manifest (subject.table criteria) criteria).extend
    (Check.tagCounts manifest subject.tagCounts))

namespace SequenceRun

/--
Look for the names of numbers from one on in the lines of an output, up to
the first that no line mentions.  The answer says whether all of them were
found.
-/
def mentionNumbers (lines : List String) (name : Nat → String) :
    Nat → Nat → List Verdict × Bool
  | _, 0 => ([], true)
  | number, count + 1 =>
      if Check.mentions lines (name number) then
        let (verdicts, found) := mentionNumbers lines name (number + 1) count
        (Check.mentionIn lines (name number) :: verdicts, found)
      else ([Check.mentionIn lines (name number)], false)

/--
Look for the names of the stretches, up to the first that is missing.  The
program breaks off if it comes to a stretch that cannot be padded.
-/
def mentionStretches (lines : List String) (pattern : String) :
    List Stretch → Option (List Verdict)
  | [] => some []
  | stretch :: rest =>
      if stretch.canPad then
        let (verdicts, found) := mentionNumbers lines (stretch.name pattern)
          stretch.run.first stretch.run.count
        if found then
          (mentionStretches lines pattern rest).map (verdicts ++ ·)
        else
          some verdicts
      else
        none

/--
Look for every name of a sequence in an output, in order, up to the first
that no line mentions, unless the program breaks off before.
-/
def mentionNames (output : String) (sequence : Sequence)
    (pattern : String) : Option (List Verdict) :=
  mentionStretches (Text.linesOf output) pattern sequence.stretches

/-- Look for the names that a run must have written; none without a pattern. -/
def judgeNames (subject : SequenceRun) (sequence : Sequence) :
    Option (List Verdict) :=
  match subject.pattern with
  | some pattern => mentionNames subject.output sequence pattern
  | none => some []

/--
Check the exit status, which depends on whether the sequence can be read
and is contiguous, and then the names that the run must have written.
-/
def judge (subject : SequenceRun) (criteria : Criteria) : Option Report :=
  match Sequence.readContiguous subject.spec with
  | .ok sequence =>
      (subject.judgeNames sequence).map fun mentions =>
        ⟨Check.exitNumber (criteria.exitNumber .success)
          subject.exitCode :: mentions⟩
  | .error fault =>
      some ⟨[Check.exitNumber (criteria.exitNumber fault.exitCode)
        subject.exitCode]⟩

end SequenceRun

/--
Check the exit status, that the output mentions the path, and the lines.
The expected status must be one of a failed verification.
-/
def FailureRun.judge (subject : FailureRun) (criteria : Criteria) :
    Except Fault Report :=
  if subject.expected.isVerificationFailure then
    .ok ⟨Check.exitNumber (criteria.exitNumber subject.expected)
        subject.exitCode ::
      Check.mention subject.output subject.path ::
      Check.lineSubstrings subject.output subject.lines⟩
  else
    .error (.internal (subject.expected.text ++
      " is not a size, hash or missing-file failure"))

namespace Scenario

/-- The name of the kind of a scenario. -/
def kind : Scenario → String
  | crossTool _ => "cross_tool"
  | manifestContents _ => "manifest_contents"
  | sequenceRun _ => "sequence_run"
  | sizeOrHashFailure _ => "size_or_hash_failure"

/-- Judge a scenario; nothing comes of it if the program breaks off. -/
def judge (scenario : Scenario) (criteria : Criteria) :
    Option (Except Fault Report) :=
  match scenario with
  | crossTool subject => some (.ok subject.judge)
  | manifestContents subject =>
      some ((subject.judge criteria).mapError .manifest)
  | sequenceRun subject => (subject.judge criteria).map .ok
  | sizeOrHashFailure subject => some (subject.judge criteria)

end Scenario

end MediaHash
