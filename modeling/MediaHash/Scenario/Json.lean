import MediaHash.Json.Parser
import MediaHash.Json.Record
import MediaHash.Scenario

/-!
# Scenarios as JSON

A scenario is an object whose member `kind` names its kind, with the fields
of that kind beside it.  Instead of an object there may be an array, the
name of the kind first and the fields after it in order.
-/

namespace MediaHash

open Json

/-! ## Writing -/

/-- A path with its size. -/
def Scenario.sizeJson (entry : String × Nat) : Json :=
  .array [.string entry.1, .nat entry.2]

/-- An expected count as a record. -/
def Check.TagCount.toJson (expected : Check.TagCount) : Json :=
  .object [("path", .string expected.path), ("tag", .string expected.tag),
    ("count", .nat expected.count)]

/-- Expected lines with their substring as a record. -/
def Check.LineSubstring.toJson (expected : Check.LineSubstring) : Json :=
  .object [("lines", .array (expected.lines.map .nat)),
    ("substring", .string expected.substring)]

namespace Scenario

/-- The fields of a scenario, in order. -/
def fields : Scenario → List (String × Json)
  | crossTool subject =>
      [("reference", .string subject.reference),
        ("candidate", .string subject.candidate)]
  | manifestContents subject =>
      [("manifest", .string subject.manifest),
        ("expectations", .string subject.expectations),
        ("sizes", .array (subject.sizes.map sizeJson)),
        ("tag_counts", .array (subject.tagCounts.map Check.TagCount.toJson))]
  | sequenceRun subject =>
      [("spec", .string subject.spec), ("exit_code", .int subject.exitCode),
        ("output", .string subject.output),
        ("pattern", .ofString? subject.pattern)]
  | sizeOrHashFailure subject =>
      [("expected", .string subject.expected.name),
        ("exit_code", .int subject.exitCode),
        ("output", .string subject.output), ("path", .string subject.path),
        ("lines", .array (subject.lines.map Check.LineSubstring.toJson))]

/-- The scenario as an object, its kind first. -/
def toJson (scenario : Scenario) : Json :=
  .object (("kind", .string scenario.kind) :: scenario.fields)

end Scenario

/-! ## Reading -/

/-- A pair of a path and a size. -/
def Scenario.size? : Json → Option (String × Nat)
  | .array [path, size] => do some (← string? path, ← nat64? size)
  | _ => none

/-- The expected count that a record stands for. -/
def Check.TagCount.ofJson? (value : Json) : Option Check.TagCount := do
  let [path, tag, count] ← fields? ["path", "tag", "count"] value | none
  some ⟨← required? string? path, ← required? string? tag,
    ← required? nat64? count⟩

/-- The expected lines that a record stands for. -/
def Check.LineSubstring.ofJson? (value : Json) :
    Option Check.LineSubstring := do
  let [lines, substring] ← fields? ["lines", "substring"] value | none
  some ⟨← required? (list? nat64?) lines, ← required? string? substring⟩

/-- The two outputs that a record holds. -/
def CrossTool.ofJson? (value : Json) : Option CrossTool := do
  let [reference, candidate] ← fields? ["reference", "candidate"] value
    | none
  some ⟨← required? string? reference, ← required? string? candidate⟩

/-- The manifest that a record holds, with what is expected of it. -/
def ManifestContents.ofJson? (value : Json) : Option ManifestContents := do
  let [manifest, expectations, sizes, tagCounts] ←
    fields? ["manifest", "expectations", "sizes", "tag_counts"] value | none
  some ⟨← required? string? manifest, ← required? string? expectations,
    ← defaulted? [] (list? Scenario.size?) sizes,
    ← defaulted? [] (list? Check.TagCount.ofJson?) tagCounts⟩

/-- The run over a sequence that a record describes. -/
def SequenceRun.ofJson? (value : Json) : Option SequenceRun := do
  let [spec, exitCode, output, pattern] ←
    fields? ["spec", "exit_code", "output", "pattern"] value | none
  some ⟨← required? string? spec, ← required? int32? exitCode,
    ← defaulted? "" string? output, ← defaulted? none optionalString? pattern⟩

/-- The failed run that a record describes. -/
def FailureRun.ofJson? (value : Json) : Option FailureRun := do
  let [expected, exitCode, output, path, lines] ←
    fields? ["expected", "exit_code", "output", "path", "lines"] value | none
  some ⟨← required? (name? ExitCode.ofName?) expected,
    ← required? int32? exitCode, ← required? string? output,
    ← required? string? path,
    ← defaulted? [] (list? Check.LineSubstring.ofJson?) lines⟩

namespace Scenario

/-- The scenario of a named kind with the given fields. -/
def ofFields? (kind : String) (fields : Json) : Option Scenario :=
  if kind = "cross_tool" then
    (CrossTool.ofJson? fields).map crossTool
  else if kind = "manifest_contents" then
    (ManifestContents.ofJson? fields).map manifestContents
  else if kind = "sequence_run" then
    (SequenceRun.ofJson? fields).map sequenceRun
  else if kind = "size_or_hash_failure" then
    (FailureRun.ofJson? fields).map sizeOrHashFailure
  else none

/-- The scenario that a value stands for. -/
def ofJson? : Json → Option Scenario
  | .object members => do
      let some (.string kind) ← field? members "kind" | none
      ofFields? kind
        (.object (members.filter fun member => member.1 != "kind"))
  | .array (.string kind :: fields) => ofFields? kind (.array fields)
  | _ => none

/-- Why a text is no scenario. -/
inductive ReadFault where
  /-- The text is no JSON document. -/
  | notJson (fault : Json.Fault)
  /-- The document does not have the form of a scenario. -/
  | notScenario
deriving DecidableEq, Repr

/-- A description of the fault. -/
def ReadFault.message : ReadFault → String
  | .notJson fault => fault.message
  | .notScenario => "the document does not describe a scenario"

/-- Read a scenario from the text of a document. -/
def read (text : String) : Except ReadFault Scenario :=
  match Json.parse text with
  | .error fault => .error (.notJson fault)
  | .ok value =>
      match ofJson? value with
      | some scenario => .ok scenario
      | none => .error .notScenario

/-- The text of a scenario. -/
def write (scenario : Scenario) : String :=
  scenario.toJson.compact

end Scenario

end MediaHash
