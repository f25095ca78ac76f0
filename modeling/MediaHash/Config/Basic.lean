import MediaHash.Criteria
import MediaHash.ReportMode
import MediaHash.Text.Split

/-!
# Configuration

A configuration says how results are presented, how strictly manifests are
judged, which digests are computed by default, and which numbers the tool
under test uses for some of its exit statuses.  The environment may change
three of the settings.
-/

namespace MediaHash

/-- Numbers used in the place of standard exit statuses. -/
structure ExitNumbers where
  sizeMismatch : Option Int
  hashMismatch : Option Int
  noSuchFile : Option Int
  invalidSequence : Option Int
  gapInSequence : Option Int
deriving DecidableEq, Repr

/-- The standard numbers are used throughout. -/
def ExitNumbers.standard : ExitNumbers :=
  ⟨none, none, none, none, none⟩

/-- The statuses that have a number of their own, with that number. -/
def ExitNumbers.overrides (numbers : ExitNumbers) : List (ExitCode × Int) :=
  [(ExitCode.fileSizeMismatch, numbers.sizeMismatch),
    (ExitCode.hashMismatch, numbers.hashMismatch),
    (ExitCode.noSuchFile, numbers.noSuchFile),
    (ExitCode.invalidSequence, numbers.invalidSequence),
    (ExitCode.gapInSequence, numbers.gapInSequence)].filterMap
    fun (status, number) => number.map fun number => (status, number)

/-- All settings. -/
structure Config where
  defaultOutput : OutputFormat
  color : ColorChoice
  strictCompleteness : Bool
  caseInsensitiveHashType : Bool
  /-- The families of which digests are computed when none are named. -/
  defaultHashTypes : List HashType
  exitNumbers : ExitNumbers
deriving DecidableEq, Repr

namespace Config

/-- The settings when nothing else is said. -/
def standard : Config :=
  { defaultOutput := .tty
    color := .auto
    strictCompleteness := true
    caseInsensitiveHashType := true
    defaultHashTypes := [.md5]
    exitNumbers := .standard }

/-- The criteria that the settings amount to. -/
def criteria (config : Config) : Criteria :=
  ⟨config.strictCompleteness, config.caseInsensitiveHashType,
    config.exitNumbers.overrides⟩

/-- Refuse default families of which no digest can be computed. -/
def validate (config : Config) : Except ConfigFault Unit :=
  if config.defaultHashTypes = [] ∨ .null ∈ config.defaultHashTypes then
    .error (.invalidValue "oracle.default_hash_types"
      (Text.joinWith "," (config.defaultHashTypes.map HashType.tag)))
  else
    .ok ()

/-! ## The environment -/

/-- The variable that sets the output format. -/
def outputVariable : String := "MHLCHECK_OUTPUT"

/-- The variable that sets the choice of color. -/
def colorVariable : String := "MHLCHECK_COLOR"

/-- The variable that sets whether completeness is strict. -/
def strictVariable : String := "MHLCHECK_STRICT_COMPLETENESS"

/-- The truth value that a word stands for. -/
def switch? (word : String) : Option Bool :=
  if word = "true" ∨ word = "1" ∨ word = "yes" then some true
  else if word = "false" ∨ word = "0" ∨ word = "no" then some false
  else none

/--
Take one variable into the settings.  Beside the settings stands the fault
of an earlier variable, after which nothing changes any more.
-/
def mergeVariable {α : Type} (name : String)
    (read? : String → Option α) (put : Config → α → Config)
    (environment : String → Option String)
    (state : Config × Option ConfigFault) : Config × Option ConfigFault :=
  match state, environment name with
  | (config, some fault), _ => (config, some fault)
  | (config, none), none => (config, none)
  | (config, none), some word =>
      match read? word with
      | some value => (put config value, none)
      | none => (config, some (.invalidValue name word))

/--
Take the three variables into the settings, in order.  The first one with a
word that it does not know is a fault; those before it have taken effect.
-/
def mergeEnvironment (environment : String → Option String)
    (config : Config) : Config × Option ConfigFault :=
  mergeVariable strictVariable switch?
      (fun config strict => { config with strictCompleteness := strict })
      environment <|
    mergeVariable colorVariable ColorChoice.ofName?
      (fun config color => { config with color })
      environment <|
    mergeVariable outputVariable OutputFormat.ofName?
      (fun config format => { config with defaultOutput := format })
      environment (config, none)

end Config

end MediaHash
