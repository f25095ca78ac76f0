import MediaHash.Grid
import MediaHash.Json.Value
import MediaHash.ReportMode
import MediaHash.Sequence.Names
import MediaHash.Verdict.Json

/-!
# Results of commands

What a command produced, its exit status, and its text in each of the three
formats.  The text of a sequence begins with its written form in every format,
so the program breaks off before anything is written if a token is too wide.
-/

namespace MediaHash.Command

/-- What a command produced. -/
inductive Result where
  | report (report : Report)
  | listing (claims : List Claim)
  /-- A sequence without gaps, and the pattern of its names if one is given. -/
  | sequence (sequence : Sequence) (pattern : Option String)
  | refusedSequence (fault : SequenceFault)
deriving DecidableEq, Repr

namespace Result

/-- The exit status that goes with a result. -/
def exitStatus : Result → Int
  | .report judged => if judged.passed then 0 else 1
  | .listing _ => 0
  | .sequence _ _ => 0
  | .refusedSequence fault => fault.exitCode.number

/-! ## One JSON document -/

/--
What is said of a sequence with its written form, as members in ascending
order of their keys.
-/
def summaryMembers (written : String) (sequence : Sequence) :
    List (String × Json) :=
  [("len", .nat sequence.size),
    ("runs", .array (sequence.runs.map fun run =>
      .array [.nat run.first, .nat run.last])),
    ("spec", .string written), ("valid", .bool true)]

/-- What is said of a sequence. -/
def summary (written : String) (sequence : Sequence) : Json :=
  .object (summaryMembers written sequence)

/-- Names in quotes, with commas between them. -/
def quotedNames : List String → List Char
  | [] => []
  | [name] => Json.quoted name
  | name :: rest => Json.quoted name ++ ',' :: quotedNames rest

/--
What is said of a sequence on one line, with its names.  The line is put
together from the summary without its closing brace and from the names.
-/
def summaryWithNames (written : String) (sequence : Sequence)
    (names : List String) : List Char :=
  (summary written sequence).compactChars.dropLast ++
    ",\"names\":[".toList ++
    quotedNames names ++ [']', '}', '\n']

/-- A report as a value. -/
def reportJson (report : Report) : Json :=
  .object [("checked", .nat report.size),
    ("mismatched", .nat report.mismatchCount),
    ("passed", .bool report.passed),
    ("verdicts", .array (report.verdicts.map Verdict.toJson))]

/-- A fault of a sequence as a value. -/
def refusalJson (fault : SequenceFault) : Json :=
  .object [("code", .string (Fault.sequence fault).code),
    ("exit_code", .int fault.exitCode.number),
    ("message", .string fault.message), ("valid", .bool false)]

/-- The result as one JSON document; none if the program breaks off. -/
def jsonText? : Result → Option String
  | .report judged => some ((reportJson judged).pretty ++ "\n")
  | .listing claims =>
      some ((Json.object
        [("entries", .array (claims.map Claim.toJson))]).pretty ++ "\n")
  | .sequence accepted none => do
      let written ← accepted.text?
      some ((summary written accepted).pretty ++ "\n")
  | .sequence accepted (some pattern) => do
      let written ← accepted.text?
      let names ← accepted.names? pattern
      some (String.ofList (summaryWithNames written accepted names))
  | .refusedSequence fault => some ((refusalJson fault).pretty ++ "\n")

/-! ## Lines and tables -/

/-- The cells of a verdict in a table. -/
def verdictRow : Verdict → List String
  | .matched fact path => ["OK", fact.text, path.getD "-", "-", "-"]
  | .mismatch fact kind path expected actual =>
      [kind.text, fact.text, path.getD "-", expected, actual]

/-- The table of a report, without lines if there are no verdicts. -/
def reportTable (report : Report) : List (List Char) :=
  if report.isEmpty then []
  else
    Grid.lines ["Status", "Fact", "Path", "Expected", "Actual"]
      (report.verdicts.map verdictRow)

/-- Lines of text, each ended by a line feed. -/
def unlines (lines : List String) : String :=
  String.join (lines.map fun line => line ++ "\n")

/-- The line that says what a sequence covers, behind its written form. -/
def sequenceLine (written : String) (sequence : Sequence) : String :=
  written ++ ": " ++ Text.decimal sequence.size ++ " files, " ++
    Text.decimal (sequence.first?.getD 0) ++ "-" ++
    Text.decimal (sequence.last?.getD 0)

/-- The lines of a result that is no report; none if the program breaks off. -/
def plainLines? : Result → Option (List String)
  | .report judged =>
      some (judged.verdicts.map Verdict.text ++ [judged.summary])
  | .listing claims => some (claims.map Claim.text)
  | .sequence accepted pattern => do
      let written ← accepted.text?
      let names ← match pattern with
        | some pattern => accepted.names? pattern
        | none => some []
      some (sequenceLine written accepted ::
        names.map fun name => "  " ++ name)
  | .refusedSequence fault =>
      some ["[ERROR] " ++ fault.message ++ " (tool exit code " ++
        fault.exitCode.text ++ ")"]

/-- The lines of a result in which a report is a table with its summary. -/
def tableLines? : Result → Option (List String)
  | .report judged =>
      some ((reportTable judged).map String.ofList ++ [judged.summary])
  | result => result.plainLines?

/-- The text of a result in a format; none if the program breaks off. -/
def text? (format : OutputFormat) (result : Result) : Option String :=
  match format with
  | .json => result.jsonText?
  | .plain => result.plainLines?.map unlines
  | .tty => result.tableLines?.map unlines

end Result

end MediaHash.Command
