import MediaHash.Text.Decimal

/-!
# Exit codes of the tool under test

The tool reports what happened in its exit status.  Each status has a name,
used in scenarios, and a standard number.
-/

namespace MediaHash

/-- What the tool under test reports when it ends. -/
inductive ExitCode where
  | success
  | unknown
  | wrongArguments
  | noSuchFile
  | ioError
  | wrongInputFormat
  | mhlNotFound
  | wrongMhlFormat
  | fileSizeMismatch
  | hashMismatch
  | invalidSequence
  | gapInSequence
  | noMhlEntry
deriving DecidableEq, Repr

namespace ExitCode

/-- Every status, in the order of its number. -/
def all : List ExitCode :=
  [success, unknown, wrongArguments, noSuchFile, ioError, wrongInputFormat,
    mhlNotFound, wrongMhlFormat, fileSizeMismatch, hashMismatch,
    invalidSequence, gapInSequence, noMhlEntry]

/-- The standard number of a status. -/
def number : ExitCode → Int
  | success => 0
  | unknown => 1
  | wrongArguments => 2
  | noSuchFile => 3
  | ioError => 4
  | wrongInputFormat => 6
  | mhlNotFound => 10
  | wrongMhlFormat => 11
  | fileSizeMismatch => 15
  | hashMismatch => 16
  | invalidSequence => 22
  | gapInSequence => 23
  | noMhlEntry => 24

/-- The name of a status in scenarios. -/
def name : ExitCode → String
  | success => "success"
  | unknown => "unknown"
  | wrongArguments => "wrong_arguments"
  | noSuchFile => "no_such_file"
  | ioError => "io_error"
  | wrongInputFormat => "wrong_input_format"
  | mhlNotFound => "mhl_not_found"
  | wrongMhlFormat => "wrong_mhl_format"
  | fileSizeMismatch => "file_size_mismatch"
  | hashMismatch => "hash_mismatch"
  | invalidSequence => "invalid_sequence"
  | gapInSequence => "gap_in_sequence"
  | noMhlEntry => "no_mhl_entry"

/-- The name of a status in messages. -/
def title : ExitCode → String
  | success => "Success"
  | unknown => "Unknown"
  | wrongArguments => "WrongArguments"
  | noSuchFile => "NoSuchFile"
  | ioError => "IoError"
  | wrongInputFormat => "WrongInputFormat"
  | mhlNotFound => "MhlNotFound"
  | wrongMhlFormat => "WrongMhlFormat"
  | fileSizeMismatch => "FileSizeMismatch"
  | hashMismatch => "HashMismatch"
  | invalidSequence => "InvalidSequence"
  | gapInSequence => "GapInSequence"
  | noMhlEntry => "NoMhlEntry"

/-- The status with the given standard number. -/
def ofNumber? (number : Int) : Option ExitCode :=
  all.find? fun status => status.number == number

/-- The status with the given name. -/
def ofName? (name : String) : Option ExitCode :=
  all.find? fun status => status.name == name

/-- The tool found a file that does not agree with its manifest. -/
def isVerificationFailure : ExitCode → Bool
  | fileSizeMismatch | hashMismatch | noSuchFile => true
  | _ => false

/-- The number of a status with its name in brackets. -/
def text (status : ExitCode) : String :=
  Text.signedDecimal status.number ++ " (" ++ status.title ++ ")"

/-- The text of a number, with the name of the status it stands for if any. -/
def describe (number : Int) : String :=
  match ofNumber? number with
  | some status => status.text
  | none => Text.signedDecimal number

@[simp]
theorem ofNumber?_number (status : ExitCode) :
    ofNumber? status.number = some status := by
  cases status <;> decide

@[simp]
theorem ofName?_name (status : ExitCode) :
    ofName? status.name = some status := by
  cases status <;> decide

end ExitCode

end MediaHash
