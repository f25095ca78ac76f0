import MediaHash.Command.Arguments
import MediaHash.Command.Result
import MediaHash.Config.Toml
import MediaHash.Digest.Hasher
import MediaHash.Listing.File
import MediaHash.Manifest.File
import MediaHash.Scenario.Json

/-!
# Running a command

A run takes the files that it can reach, the environment and the arguments,
and gives an exit status with what is to be written.  The configuration is
read first, then changed by the environment and by the options, in this
order; only then is the command carried out.  A run that breaks off writes
nothing and ends with an exit status of its own.
-/

namespace MediaHash.Command

/-- What a run can see of its surroundings. -/
structure Surroundings where
  files : Files
  environment : String → Option String
  /-- The directory that holds the directories of configurations. -/
  configHome : String

/-- Why a command was not carried out. -/
inductive Failure where
  /-- The configuration or the environment is at fault. -/
  | config (fault : ConfigFault)
  /-- A file that the command reads is at fault. -/
  | input (fault : Fault)
  /-- A scenario file does not hold a scenario. -/
  | scenario (file : String) (fault : Scenario.ReadFault)
  /-- The program broke off since a number could not be padded. -/
  | brokenOff
deriving DecidableEq, Repr

namespace Failure

/-- The failure that a fault amounts to. -/
def ofFault : Fault → Failure
  | .config fault => config fault
  | fault => input fault

/-- The lines that say what is known about a fault. -/
def details (fault : Fault) : String :=
  fault.message ++ "\n  Code: " ++ fault.code ++
    (match fault.hint? with
      | some hint => "\n  Hint: " ++ hint
      | none => "") ++
    (if fault.isRetryable then
      "\n  Retry: safe to retry this operation."
    else "")

/-- The text of a failure. -/
def text : Failure → String
  | config fault =>
      "Configuration error: " ++ (Fault.config fault).fullMessage
  | input fault => details fault
  | scenario file fault =>
      "Invalid arguments: " ++ file ++ ": " ++ fault.message
  | brokenOff => "Formatting argument out of range"

/-- The exit status that goes with a failure. -/
def exitStatus : Failure → Int
  | brokenOff => 101
  | _ => 1

/-- What is written about a failure. -/
def line : Failure → String
  | brokenOff => brokenOff.text
  | failure => "Error: " ++ failure.text

end Failure

/-! ## Settings -/

/-- Put the options of the command line over a configuration. -/
def applyOptions (config : Config) (globals : Globals) (action : Action) :
    Config :=
  { config with
    color := globals.color.getD config.color
    defaultOutput := if globals.json then .json else config.defaultOutput
    strictCompleteness := match action with
      | .manifest _ _ true => false
      | _ => config.strictCompleteness }

/-- The settings of a run: the file, the environment, then the options. -/
def settings (surroundings : Surroundings) (globals : Globals)
    (action : Action) : Except ConfigFault Config := do
  let loaded ← Config.loadOrDefault surroundings.files
    surroundings.configHome globals.config
  match loaded.mergeEnvironment surroundings.environment with
  | (_, some fault) => .error fault
  | (merged, none) => .ok (applyOptions merged globals action)

/-! ## Carrying out -/

/-- The text of the file at a path that a command names. -/
def readText (files : Files) (path : String) : Except Fault String :=
  (files.text path).mapError fun fault => .access fault (some path)

/-- Carry out an action under given settings. -/
def execute (files : Files) (config : Config) :
    Action → Except Failure Result
  | .compare reference candidate => do
      let expected ← (readText files reference).mapError .ofFault
      let actual ← (readText files candidate).mapError .ofFault
      .ok (.report (CrossTool.judge ⟨expected, actual⟩))
  | .manifest path expectations _ => do
      let manifest ← (Manifest.load files path).mapError .ofFault
      let listing ← (Listing.load files expectations).mapError .ofFault
      .ok (.report (Check.manifest manifest
        (config.criteria.expectations listing) config.criteria))
  | .sequence spec pattern =>
      match Sequence.readContiguous spec with
      | .ok sequence => .ok (.sequence sequence pattern)
      | .error fault => .ok (.refusedSequence fault)
  | .hash paths types => do
      let types := if types.isEmpty then config.defaultHashTypes else types
      let listing ← (do
        let hasher ← Hasher.ofTypes types
        hasher.hashFiles files paths).mapError fun fault =>
          Failure.ofFault (.hashing fault)
      .ok (.listing listing.claims)
  | .scenario file => do
      let text ← (readText files file).mapError .ofFault
      match Scenario.read text with
      | .error fault => .error (.scenario file fault)
      | .ok scenario =>
          match scenario.judge config.criteria with
          | none => .error .brokenOff
          | some judged => do
              let report ← judged.mapError .ofFault
              .ok (.report report)

/-- The paths that an action reads. -/
def Action.paths : Action → List String
  | .compare reference candidate => [reference, candidate]
  | .manifest path expectations _ => [path, expectations]
  | .sequence _ _ => []
  | .hash files _ => files
  | .scenario file => [file]

/-- Every path that a run with these arguments may read. -/
def reachablePaths (configHome : String) (arguments : List String) :
    List String :=
  match parse arguments with
  | some (.run globals action) =>
      globals.config.getD (Config.defaultPath configHome) :: action.paths
  | _ => []

/-- What a run ends with. -/
structure Outcome where
  exitStatus : Int
  output : String
  failure : Option Failure
deriving DecidableEq, Repr

/-- What a run ends with that fails. -/
def Failure.outcome (failure : Failure) : Outcome :=
  ⟨failure.exitStatus, "", some failure⟩

/-- The name of the program with its version. -/
def versionLine : String := "mhlcheck 0.1.0\n"

/-- Follow a command line. -/
def run (surroundings : Surroundings) (arguments : List String) : Outcome :=
  match parse arguments with
  | none => ⟨2, "", none⟩
  | some .version => ⟨0, versionLine, none⟩
  | some .help => ⟨0, "", none⟩
  | some (.run globals action) =>
      match settings surroundings globals action with
      | .error fault => (Failure.config fault).outcome
      | .ok config =>
          match execute surroundings.files config action with
          | .error failure => failure.outcome
          | .ok result =>
              match result.text? config.defaultOutput with
              | none => Failure.brokenOff.outcome
              | some text => ⟨result.exitStatus, text, none⟩

end MediaHash.Command
