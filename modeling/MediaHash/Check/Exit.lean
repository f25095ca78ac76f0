import MediaHash.ExitCode
import MediaHash.Verdict

/-!
# Checks of the exit status
-/

namespace MediaHash.Check

/-- The verdict on an exit status, given the expected number. -/
def exitNumber (expected actual : Int) : Verdict :=
  if expected = actual then .matched .exitCode none
  else
    .mismatch .exitCode .exitCodeMismatch none (ExitCode.describe expected)
      (ExitCode.describe actual)

/-- The verdict on an exit status, given the status that is expected. -/
def exitCode (expected : ExitCode) (actual : Int) : Verdict :=
  exitNumber expected.number actual

end MediaHash.Check
