import MediaHash.Command.Run
import MediaHash.Proofs.Config.Loading

/-!
# The settings of a run

Settings come from three sources, each of which may leave some of them open:
the options of the command line come before the environment, and the
environment before the file of the configuration.  What none of them says is
as usual.  The environment and the options say nothing about families of
hashes and exit statuses, so these are the file's.

A wrong word in the environment ends a run, whatever the options say.
-/

namespace MediaHash.Command

open Config

/-! ## What a run comes to -/

/-- What an action comes to under given settings. -/
def outcomeOf (files : Files) (config : Config) (action : Action) :
    Outcome :=
  match execute files config action with
  | .error failure => failure.outcome
  | .ok result =>
      match result.text? config.defaultOutput with
      | none => Failure.brokenOff.outcome
      | some text => ⟨result.exitStatus, text, none⟩

/-- What a run comes to whose settings are at fault. -/
def outcomeOfFault (fault : ConfigFault) : Outcome :=
  (Failure.config fault).outcome

section Runs

variable {surroundings : Surroundings} {arguments : List String}
  {globals : Globals} {action : Action} {config : Config}
  {fault : ConfigFault}

theorem run_of_settings
    (parsed : parse arguments = some (.run globals action))
    (settled : settings surroundings globals action = .ok config) :
    run surroundings arguments =
      outcomeOf surroundings.files config action := by
  simp only [run, parsed, settled]
  rfl

theorem run_of_settings_error
    (parsed : parse arguments = some (.run globals action))
    (faulty : settings surroundings globals action = .error fault) :
    run surroundings arguments = outcomeOfFault fault := by
  simp only [run, parsed, faulty]
  rfl

/-- A wrong word in the environment is the fault of the settings. -/
theorem settings_of_fault {loaded merged : Config}
    (isLoaded : loadOrDefault surroundings.files surroundings.configHome
      globals.config = .ok loaded)
    (faulty : mergeEnvironment surroundings.environment loaded =
      (merged, some fault)) :
    settings surroundings globals action = .error fault := by
  rw [settings, isLoaded]
  simp only [bind, Except.bind, faulty]

theorem settings_of_merged {loaded merged : Config}
    (isLoaded : loadOrDefault surroundings.files surroundings.configHome
      globals.config = .ok loaded)
    (isMerged : mergeEnvironment surroundings.environment loaded =
      (merged, none)) :
    settings surroundings globals action =
      .ok (applyOptions merged globals action) := by
  rw [settings, isLoaded]
  simp only [bind, Except.bind, isMerged]

end Runs

/-! ## Layers -/

/-- The action is a check of a manifest that leaves out completeness. -/
def Action.SkipsCompleteness (action : Action) : Prop :=
  ∃ manifest expectations, action = .manifest manifest expectations true

/--
The settings of a run, each from the first source that says something about
it.
-/
structure Layered (globals : Globals) (action : Action)
    (environment : String → Option String) (file : Layer)
    (config : Config) : Prop where
  defaultOutput : config.defaultOutput =
    if globals.json then .json
    else ((said? environment outputVariable outputWords).or
      file.defaultOutput).getD .tty
  color : config.color =
    (globals.color.or ((said? environment colorVariable colorWords).or
      file.color)).getD .auto
  skipped : action.SkipsCompleteness → config.strictCompleteness = false
  strictCompleteness : ¬ action.SkipsCompleteness →
    config.strictCompleteness =
      ((said? environment strictVariable strictWords).or
        file.strictCompleteness).getD true
  caseInsensitiveHashType : config.caseInsensitiveHashType =
    file.caseInsensitiveHashType.getD true
  defaultHashTypes : config.defaultHashTypes =
    file.defaultHashTypes.getD [.md5]
  exitNumbers : config.exitNumbers = file.exitNumbers

/-- Only a check that skips completeness changes what is said about it. -/
theorem strictCompleteness_applyOptions (config : Config)
    (globals : Globals) {action : Action}
    (judged : ¬ action.SkipsCompleteness) :
    (applyOptions config globals action).strictCompleteness =
      config.strictCompleteness := by
  simp only [applyOptions]
  split
  next manifest expectations =>
    exact absurd ⟨manifest, expectations, rfl⟩ judged
  next => rfl

/-- Options over an environment without wrong words over a file. -/
theorem layered_applyOptions (globals : Globals) (action : Action)
    {environment : String → Option String} {file : Layer} {merged : Config}
    (right : AllRight environment)
    (isMerged : mergeEnvironment environment file.complete =
      (merged, none)) :
    Layered globals action environment file
      (applyOptions merged globals action) := by
  rw [mergeEnvironment_of_allRight file.complete right] at isMerged
  cases isMerged
  constructor
  · simp only [applyOptions, Layer.complete, Option.getD_or]
  · simp only [applyOptions, Layer.complete, Option.getD_or]
  · rintro ⟨manifest, expectations, rfl⟩
    rfl
  · intro judged
    rw [strictCompleteness_applyOptions _ _ judged, Option.getD_or]
    rfl
  · rfl
  · rfl
  · rfl

/--
A loaded configuration has what stands in its document.  If a variable of the
environment is set to a wrong word, every run ends with the first of them as
its fault.  Otherwise a run has the settings of its options, of the
environment and of the document, in this order, and the standard ones where
none of them says anything.
-/
theorem settings_come_in_layers {surroundings : Surroundings}
    {globals : Globals} {loaded : Config}
    (isLoaded : loadOrDefault surroundings.files surroundings.configHome
      globals.config = .ok loaded) :
    ∃ document file,
      Source surroundings.files surroundings.configHome globals.config
        document ∧
      Layer.SaidBy file document ∧ loaded = file.complete ∧
      ∀ action,
        (¬ AllRight surroundings.environment → ∃ name word,
          FirstWrong surroundings.environment name word ∧
          settings surroundings globals action =
            .error (.invalidValue name word) ∧
          ∀ arguments, parse arguments = some (.run globals action) →
            run surroundings arguments =
              outcomeOfFault (.invalidValue name word)) ∧
        (AllRight surroundings.environment → ∃ config,
          Layered globals action surroundings.environment file config ∧
          settings surroundings globals action = .ok config ∧
          ∀ arguments, parse arguments = some (.run globals action) →
            run surroundings arguments =
              outcomeOf surroundings.files config action) := by
  rcases exists_layer_of_loadOrDefault isLoaded with
    ⟨document, file, source, said, rfl⟩
  refine ⟨document, file, source, said, rfl, fun action => ⟨?_, ?_⟩⟩
  · intro wrong
    rcases exists_firstWrong wrong with ⟨name, word, first⟩
    have faulty : settings surroundings globals action =
        .error (.invalidValue name word) :=
      settings_of_fault isLoaded
        (Prod.ext rfl (mergeEnvironment_of_firstWrong file.complete first))
    exact ⟨name, word, first, faulty,
      fun arguments parsed => run_of_settings_error parsed faulty⟩
  · intro right
    have isMerged := mergeEnvironment_of_allRight file.complete right
    have settled : settings surroundings globals action =
        .ok (applyOptions _ globals action) :=
      settings_of_merged isLoaded isMerged
    exact ⟨_, layered_applyOptions globals action right isMerged, settled,
      fun arguments parsed => run_of_settings parsed settled⟩

/-- A file with a color, an override and nothing else. -/
def coloredFile : String :=
  "[general]\ncolor = \"never\"\n[exit_codes]\nhash_mismatch = 42\n"

/-- The file, and an environment in which single variables are set. -/
def coloredSurroundings (environment : List (String × String)) :
    Surroundings where
  files := (FileTree.ofEntries
    [("c.toml", .file (Encoding.writeUtf8 coloredFile))]).find
  environment := fun name => environment.lookup name
  configHome := "home"

/-- What the file says is loaded. -/
def coloredConfig : Config :=
  ⟨.tty, .never, true, true, [.md5], ⟨none, some 42, none, none, none⟩⟩

/-- The options that name the file, and a color. -/
def coloredGlobals : Globals :=
  ⟨false, false, some .always, some "c.toml"⟩

theorem settings_of_coloredFile :
    loadOrDefault (coloredSurroundings []).files "home" (some "c.toml") =
        .ok coloredConfig ∧
      (∃ config,
        settings (coloredSurroundings [(outputVariable, "plain")])
            coloredGlobals (.manifest "a.mhl" "b.txt" true) = .ok config ∧
          config.defaultOutput = .plain ∧ config.color = .always ∧
          config.strictCompleteness = false ∧
          config.exitNumbers.hashMismatch = some 42) ∧
      ∃ name word,
        FirstWrong (coloredSurroundings
          [(strictVariable, "maybe"), (colorVariable, "blue")]).environment
          name word ∧
        run (coloredSurroundings
            [(strictVariable, "maybe"), (colorVariable, "blue")])
            ["--config=c.toml", "sequence", "--color", "always", "1-3"] =
          outcomeOfFault (.invalidValue name word) := by
  have isLoaded : loadOrDefault (coloredSurroundings []).files "home"
      (some "c.toml") = .ok coloredConfig :=
    toOption_eq_some_iff.mp (by decide +kernel)
  have right : AllRight
      (coloredSurroundings [(outputVariable, "plain")]).environment := by
    simp [AllRight, knownVariables, Variable.IsWrong, coloredSurroundings,
      List.lookup_cons, outputVariable, colorVariable, strictVariable,
      outputWords]
  have wrong : ¬ AllRight (coloredSurroundings
      [(strictVariable, "maybe"), (colorVariable, "blue")]).environment := by
    intro right
    exact right ⟨colorVariable, colorWords.map Prod.fst⟩
      (by simp [knownVariables]) "blue" ⟨rfl, by decide⟩
  refine ⟨isLoaded, ?_, ?_⟩
  · rcases @settings_come_in_layers
        (coloredSurroundings [(outputVariable, "plain")]) coloredGlobals
        coloredConfig isLoaded with
      ⟨document, file, -, -, complete, layers⟩
    rcases (layers (.manifest "a.mhl" "b.txt" true)).2 right with
      ⟨config, layered, settled, -⟩
    have numbers : file.exitNumbers = coloredConfig.exitNumbers :=
      (congrArg Config.exitNumbers complete).symm
    refine ⟨config, settled, ?_, ?_, ?_, ?_⟩
    · rw [layered.defaultOutput]
      rfl
    · rw [layered.color]
      rfl
    · exact layered.skipped ⟨"a.mhl", "b.txt", rfl⟩
    · rw [layered.exitNumbers, numbers]
      rfl
  · rcases @settings_come_in_layers
        (coloredSurroundings
          [(strictVariable, "maybe"), (colorVariable, "blue")])
        coloredGlobals coloredConfig isLoaded with
      ⟨document, file, -, -, complete, layers⟩
    rcases (layers (.sequence "1-3" none)).1 wrong with
      ⟨name, word, first, -, runs⟩
    exact ⟨name, word, first, runs _ (by decide +kernel)⟩

end MediaHash.Command
