import MediaHash.Text.Decimal

/-!
# Verdicts and reports

A verdict says whether one fact checked out, and if not, what was expected
and what was found.  A report is a run of verdicts, and it passes when every
one of them is a match.
-/

namespace MediaHash

/-- What a verdict is about. -/
inductive Fact where
  /-- The digest of a hash family. -/
  | hash (family : String)
  /-- The recorded size. -/
  | size
  /-- Whether something is there at all. -/
  | presence
  /-- The number of lines of two texts. -/
  | lineCount
  /-- One line, counted from zero. -/
  | line (index : Nat)
  /-- How often a field is recorded. -/
  | tagCount (tag : String)
  /-- The exit status of the tool under test. -/
  | exitCode
deriving DecidableEq, Repr

/-- What a fact is called in messages. -/
def Fact.text : Fact → String
  | .hash family => "hash " ++ family
  | .size => "size"
  | .presence => "presence"
  | .lineCount => "line count"
  | .line index => "line " ++ Text.decimal index
  | .tagCount tag => "<" ++ tag ++ "> count"
  | .exitCode => "exit code"

/-- Why a fact did not check out. -/
inductive MismatchKind where
  | sizeMismatch
  | hashMismatch
  /-- Recorded but not expected. -/
  | extraPath
  /-- Expected but not recorded. -/
  | missingPath
  /-- One path has several different values for the same fact. -/
  | duplicateConflictingValue
  | lineCountMismatch
  | lineMismatch
  /-- A line is absent or lacks the expected text. -/
  | missingSubstring
  | tagCountMismatch
  | exitCodeMismatch
deriving DecidableEq, Repr

namespace MismatchKind

/-- Every kind of mismatch. -/
def all : List MismatchKind :=
  [sizeMismatch, hashMismatch, extraPath, missingPath,
    duplicateConflictingValue, lineCountMismatch, lineMismatch,
    missingSubstring, tagCountMismatch, exitCodeMismatch]

/-- What a kind of mismatch is called in messages. -/
def text : MismatchKind → String
  | sizeMismatch => "size mismatch"
  | hashMismatch => "hash mismatch"
  | extraPath => "extra path"
  | missingPath => "missing path"
  | duplicateConflictingValue => "conflicting duplicate"
  | lineCountMismatch => "line count mismatch"
  | lineMismatch => "line mismatch"
  | missingSubstring => "missing substring"
  | tagCountMismatch => "tag count mismatch"
  | exitCodeMismatch => "exit code mismatch"

/-- The name of a kind of mismatch in documents. -/
def name : MismatchKind → String
  | sizeMismatch => "size_mismatch"
  | hashMismatch => "hash_mismatch"
  | extraPath => "extra_path"
  | missingPath => "missing_path"
  | duplicateConflictingValue => "duplicate_conflicting_value"
  | lineCountMismatch => "line_count_mismatch"
  | lineMismatch => "line_mismatch"
  | missingSubstring => "missing_substring"
  | tagCountMismatch => "tag_count_mismatch"
  | exitCodeMismatch => "exit_code_mismatch"

/-- The kind of mismatch with a name. -/
def ofName? (name : String) : Option MismatchKind :=
  all.find? fun kind => kind.name == name

end MismatchKind

/-- The outcome of checking one fact. -/
inductive Verdict where
  | matched (fact : Fact) (path : Option String)
  | mismatch (fact : Fact) (kind : MismatchKind) (path : Option String)
      (expected actual : String)
deriving DecidableEq, Repr

namespace Verdict

/-- The fact checked out. -/
def isMatch : Verdict → Bool
  | matched _ _ => true
  | mismatch _ _ _ _ _ => false

/-- The fact that the verdict is about. -/
def fact : Verdict → Fact
  | matched fact _ => fact
  | mismatch fact _ _ _ _ => fact

/-- The path that the verdict is about, if it is about one. -/
def path? : Verdict → Option String
  | matched _ path => path
  | mismatch _ _ path _ _ => path

/-- The kind of mismatch, none for a match. -/
def kind? : Verdict → Option MismatchKind
  | matched _ _ => none
  | mismatch _ kind _ _ _ => some kind

/-- The words that name the path, if there is one. -/
def ofPath : Option String → String
  | some path => " of " ++ path
  | none => ""

/-- The verdict in one line of words. -/
def text : Verdict → String
  | matched fact path => "ok: " ++ fact.text ++ ofPath path
  | mismatch fact kind path expected actual =>
      kind.text ++ ": " ++ fact.text ++ ofPath path ++ " (expected '" ++
        expected ++ "', got '" ++ actual ++ "')"

end Verdict

/-- The verdicts of one verification, in order. -/
structure Report where
  verdicts : List Verdict
deriving DecidableEq, Repr

namespace Report

/-- The report without verdicts. -/
def empty : Report :=
  ⟨[]⟩

/-- Add verdicts at the end. -/
def extend (report : Report) (verdicts : List Verdict) : Report :=
  ⟨report.verdicts ++ verdicts⟩

/-- Every verdict is a match. -/
def passed (report : Report) : Bool :=
  report.verdicts.all Verdict.isMatch

/-- The verdicts that are no matches. -/
def mismatches (report : Report) : List Verdict :=
  report.verdicts.filter fun verdict => !verdict.isMatch

/-- The mismatches of one kind. -/
def ofKind (report : Report) (kind : MismatchKind) : List Verdict :=
  report.verdicts.filter fun verdict => verdict.kind? == some kind

/-- The number of verdicts. -/
def size (report : Report) : Nat :=
  report.verdicts.length

/-- The number of matches. -/
def matchCount (report : Report) : Nat :=
  report.verdicts.countP Verdict.isMatch

/-- The number of mismatches. -/
def mismatchCount (report : Report) : Nat :=
  report.size - report.matchCount

/-- There is no verdict. -/
def isEmpty (report : Report) : Bool :=
  report.verdicts.isEmpty

/-- The report in one line of words. -/
def summary (report : Report) : String :=
  (if report.passed then "PASSED" else "FAILED") ++ ": " ++
    Text.decimal report.size ++ " checked, " ++
    Text.decimal report.mismatchCount ++ " mismatched"

end Report

end MediaHash
