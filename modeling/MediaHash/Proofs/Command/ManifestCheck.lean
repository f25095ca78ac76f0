import MediaHash.Proofs.Command.Settings
import MediaHash.Proofs.Encoding.Marked
import MediaHash.Proofs.Items.Steps
import MediaHash.Proofs.Scenario.RoundTrip

/-!
# Two ways to check a manifest

A manifest is checked against a listing either by naming the two files, or by
naming one file with a scenario that holds the texts of both.  The first way
reads the bytes of the manifest by their mark and may be told to leave out
completeness.  The second reads a document and adds the sizes and counts of
the scenario, which are none here.

The main statement says that both ways fail with the same failure or report
the same verdicts.  Leaving out completeness by an option is leaving it out by
a setting.
-/

namespace MediaHash.Command

open Config Encoding

/--
Three files with a manifest, a listing, and a scenario of both.  The bytes of
the manifest may spell its text in UTF-8 or in either order of UTF-16, and
they need a mark in UTF-16 or if the text begins with U+FEFF.
-/
structure HoldsCheck (files : Files)
    (manifestPath listingPath scenarioPath manifest listing : String) :
    Prop where
  manifestFile : ∃ bytes, files manifestPath = .ok (.file bytes) ∧
    Spells manifest bytes
  listingFile : files listingPath = .ok (.file (writeUtf8 listing))
  scenarioFile : ∃ text,
    files scenarioPath = .ok (.file (writeUtf8 text)) ∧
      Scenario.read text =
        .ok (.manifestContents ⟨manifest, listing, [], []⟩)

/-- What a check of a manifest against a listing gives. -/
def checked (config : Config) (manifest listing : String) :
    Except Failure Result :=
  match Manifest.read manifest with
  | .error fault => .error (.input (.manifest fault))
  | .ok subject => .ok (.report (Check.manifest subject
      (config.criteria.expectations (.read listing)) config.criteria))

/-! ## Files with texts -/

theorem text_of_writeUtf8 {files : Files} {path text : String}
    (found : files path = .ok (.file (writeUtf8 text))) :
    files.text path = .ok text := by
  have readable : readUtf8 (writeUtf8 text) = .ok text :=
    readUtf8_eq_ok_iff.mpr rfl
  simp only [Files.text, Files.bytes, found, bind, Except.bind, readable]

theorem load_of_spells {files : Files} {path text : String}
    {bytes : List UInt8} (found : files path = .ok (.file bytes))
    (spells : Spells text bytes) :
    Manifest.load files path = (Manifest.read text).mapError .manifest := by
  simp only [Manifest.load, Files.bytes, found, ofBytes_of_spells spells]

theorem load_of_writeUtf8 {files : Files} {path text : String}
    (found : files path = .ok (.file (writeUtf8 text))) :
    Listing.load files path = .ok (.read text) := by
  have readable : readUtf8 (writeUtf8 text) = .ok text :=
    readUtf8_eq_ok_iff.mpr rfl
  simp only [Listing.load, Files.bytes, found, readable]

/-! ## The two ways -/

/-- Without sizes and counts a scenario asks for no more than its listing. -/
theorem judge_of_listing (manifest listing : String) (criteria : Criteria) :
    (ManifestContents.mk manifest listing [] []).judge criteria =
      (Manifest.read manifest).map fun subject =>
        Check.manifest subject (criteria.expectations (.read listing))
          criteria := by
  rw [ManifestContents.judge]
  cases Manifest.read manifest with
  | error fault => rfl
  | ok subject =>
      have noCounts (report : Report) :
          report.extend (Check.tagCounts subject []) = report := by
        rw [Check.tagCounts, List.map_nil, Report.extend, List.append_nil]
      exact congrArg Except.ok (noCounts _)

section Ways

variable {files : Files}
  {manifestPath listingPath scenarioPath manifest listing : String}
  (holds : HoldsCheck files manifestPath listingPath scenarioPath manifest
    listing)

include holds

theorem execute_manifest (config : Config) (noCompleteness : Bool) :
    execute files config
        (.manifest manifestPath listingPath noCompleteness) =
      checked config manifest listing := by
  rcases holds.manifestFile with ⟨bytes, found, spells⟩
  simp only [execute, load_of_spells found spells,
    load_of_writeUtf8 holds.listingFile, checked, bind, Except.bind]
  cases Manifest.read manifest with
  | error fault => rfl
  | ok subject => rfl

theorem execute_scenario (config : Config) :
    execute files config (.scenario scenarioPath) =
      checked config manifest listing := by
  rcases holds.scenarioFile with ⟨text, found, isScenario⟩
  simp only [execute, readText, text_of_writeUtf8 found, isScenario, checked,
    bind, Except.bind, Except.mapError, Scenario.judge, judge_of_listing]
  cases Manifest.read manifest with
  | error fault => rfl
  | ok subject => rfl

end Ways

/-! ## Agreement -/

/--
Two checks fail with the same failure, or they report the same verdicts, and
the status that goes with these is zero exactly if all of them are matches.
-/
inductive Agree (left right : Except Failure Result) : Prop
  | failed (failure : Failure) (leftFails : left = .error failure)
      (rightFails : right = .error failure)
  | judged (report : Report) (leftReports : left = .ok (.report report))
      (rightReports : right = .ok (.report report))
      (status : (Result.report report).exitStatus =
        if ∀ verdict ∈ report.verdicts, verdict.isMatch = true then 0 else 1)

theorem exitStatus_report (report : Report) :
    (Result.report report).exitStatus =
      if ∀ verdict ∈ report.verdicts, verdict.isMatch = true then 0
      else 1 := by
  rw [Result.exitStatus, Report.passed]
  simp only [List.all_eq_true]

theorem agree_of_checked {left right : Except Failure Result}
    {config : Config} {manifest listing : String}
    (isLeft : left = checked config manifest listing)
    (isRight : right = checked config manifest listing) :
    Agree left right := by
  cases read : Manifest.read manifest with
  | error fault =>
      rw [checked, read] at isLeft isRight
      exact .failed _ isLeft isRight
  | ok subject =>
      rw [checked, read] at isLeft isRight
      exact .judged _ isLeft isRight (exitStatus_report _)

/-- What an action gives when the options are put over a configuration. -/
def perform (files : Files) (merged : Config) (globals : Globals)
    (action : Action) : Except Failure Result :=
  execute files (applyOptions merged globals action) action

/-- A configuration that leaves out completeness. -/
def withoutCompleteness (config : Config) : Config :=
  { config with strictCompleteness := false }

/-- The option to leave out completeness amounts to the setting. -/
theorem settings_manifest (surroundings : Surroundings) (globals : Globals)
    (manifestPath listingPath scenarioPath : String)
    (noCompleteness : Bool) :
    settings surroundings globals
        (.manifest manifestPath listingPath noCompleteness) =
      (settings surroundings globals (.scenario scenarioPath)).map
        (if noCompleteness then withoutCompleteness else id) := by
  rw [settings, settings]
  cases loadOrDefault surroundings.files surroundings.configHome
      globals.config with
  | error fault => rfl
  | ok loaded =>
      simp only [bind, Except.bind]
      rcases mergeEnvironment surroundings.environment loaded with
        ⟨merged, _ | fault⟩
      · cases noCompleteness <;> rfl
      · rfl

/-- Surroundings with an environment that leaves out completeness. -/
def Surroundings.withoutCompleteness (surroundings : Surroundings) :
    Surroundings :=
  { surroundings with
    environment := fun name =>
      if name = strictVariable then some "false"
      else surroundings.environment name }

theorem allRight_withoutCompleteness {surroundings : Surroundings}
    (right : AllRight surroundings.environment) :
    AllRight surroundings.withoutCompleteness.environment := by
  intro asked member word wrong
  rcases wrong with ⟨isSet, notOwn⟩
  simp only [Surroundings.withoutCompleteness] at isSet
  split at isSet
  next isStrict =>
    cases isSet
    simp only [knownVariables, List.mem_cons, List.not_mem_nil, or_false]
      at member
    rcases member with rfl | rfl | rfl
    · exact absurd isStrict (by decide)
    · exact absurd isStrict (by decide)
    · exact notOwn (by decide)
  next => exact right asked member word ⟨isSet, notOwn⟩

/-- Saying so in the environment leaves out completeness, and no more. -/
theorem settings_withoutCompleteness {surroundings : Surroundings}
    {globals : Globals} {scenarioPath : String} {config : Config}
    (settled : settings surroundings globals (.scenario scenarioPath) =
      .ok config) :
    settings surroundings.withoutCompleteness globals
        (.scenario scenarioPath) =
      .ok (withoutCompleteness config) := by
  cases isLoaded : loadOrDefault surroundings.files surroundings.configHome
      globals.config with
  | error fault =>
      rw [settings, isLoaded] at settled
      cases settled
  | ok loaded =>
      by_cases right : AllRight surroundings.environment
      · rw [settings_of_merged isLoaded
          (mergeEnvironment_of_allRight loaded right)] at settled
        cases settled
        exact @settings_of_merged surroundings.withoutCompleteness globals _
          loaded _ isLoaded (mergeEnvironment_of_allRight loaded
            (allRight_withoutCompleteness right))
      · rcases exists_firstWrong right with ⟨name, word, first⟩
        rw [settings_of_fault isLoaded
          (Prod.ext rfl (mergeEnvironment_of_firstWrong loaded first))]
          at settled
        cases settled

section Runs

variable {surroundings other : Surroundings} {globals : Globals}
  {manifestPath listingPath scenarioPath manifest listing : String}
  {checkArguments scenarioArguments : List String} {noCompleteness : Bool}

/--
Both ways come to the same, wherever they run, if the settings of the one are
those of the other up to what the option says about completeness.
-/
theorem run_manifest_eq_run_scenario {config : Config}
    (holds : HoldsCheck surroundings.files manifestPath listingPath
      scenarioPath manifest listing)
    (otherHolds : HoldsCheck other.files manifestPath listingPath
      scenarioPath manifest listing)
    (checkParsed : parse checkArguments = some (.run globals
      (.manifest manifestPath listingPath noCompleteness)))
    (scenarioParsed : parse scenarioArguments =
      some (.run globals (.scenario scenarioPath)))
    (settled : settings surroundings globals (.scenario scenarioPath) =
      .ok config)
    (otherSettled : settings other globals (.scenario scenarioPath) =
      .ok ((if noCompleteness then withoutCompleteness else id) config)) :
    run surroundings checkArguments = run other scenarioArguments := by
  have checkSettled := settings_manifest surroundings globals manifestPath
    listingPath scenarioPath noCompleteness
  rw [settled] at checkSettled
  rw [run_of_settings checkParsed checkSettled,
    run_of_settings scenarioParsed otherSettled, outcomeOf, outcomeOf,
    execute_manifest holds, execute_scenario otherHolds]

/-- What is wrong with the settings of one way is wrong with the other's. -/
theorem run_manifest_of_settings_error {fault : ConfigFault}
    (checkParsed : parse checkArguments = some (.run globals
      (.manifest manifestPath listingPath noCompleteness)))
    (scenarioParsed : parse scenarioArguments =
      some (.run globals (.scenario scenarioPath)))
    (faulty : settings surroundings globals (.scenario scenarioPath) =
      .error fault) :
    run surroundings checkArguments =
      run surroundings scenarioArguments := by
  have checkFaulty : settings surroundings globals
      (.manifest manifestPath listingPath noCompleteness) =
        .error fault := by
    rw [settings_manifest surroundings globals manifestPath listingPath
      scenarioPath, faulty]
    rfl
  rw [run_of_settings_error checkParsed checkFaulty,
    run_of_settings_error scenarioParsed faulty]

end Runs

/--
A check of a manifest by its files and the scenario of the same texts are one
check.  Under every configuration they fail with the same failure or report
the same verdicts in the same order, with the status zero exactly if all
verdicts are matches.  With the option to leave out completeness, the check is
the scenario under a configuration that leaves it out.  The same holds of
whole runs, in all that they end with; the environment is one of the places
that may leave out completeness.
-/
theorem manifest_check_agrees_with_scenario {files : Files}
    {manifestPath listingPath scenarioPath manifest listing : String}
    (holds : HoldsCheck files manifestPath listingPath scenarioPath manifest
      listing) :
    (∀ merged globals,
      Agree
        (perform files merged globals
          (.manifest manifestPath listingPath false))
        (perform files merged globals (.scenario scenarioPath)) ∧
      Agree
        (perform files merged globals
          (.manifest manifestPath listingPath true))
        (perform files (withoutCompleteness merged) globals
          (.scenario scenarioPath))) ∧
    ∀ surroundings globals checkArguments scenarioArguments,
      surroundings.files = files →
      parse scenarioArguments =
        some (.run globals (.scenario scenarioPath)) →
      (parse checkArguments =
          some (.run globals (.manifest manifestPath listingPath false)) →
        run surroundings checkArguments =
          run surroundings scenarioArguments) ∧
      (parse checkArguments =
          some (.run globals (.manifest manifestPath listingPath true)) →
        ∀ config,
          settings surroundings globals (.scenario scenarioPath) =
            .ok config →
          run surroundings checkArguments =
            run surroundings.withoutCompleteness scenarioArguments ∧
          ∀ other,
            HoldsCheck other.files manifestPath listingPath scenarioPath
              manifest listing →
            settings other globals (.scenario scenarioPath) =
              .ok (withoutCompleteness config) →
            run surroundings checkArguments =
              run other scenarioArguments) := by
  constructor
  · intro merged globals
    exact ⟨agree_of_checked (execute_manifest holds _ _)
        (execute_scenario holds _),
      agree_of_checked (execute_manifest holds _ _)
        (execute_scenario holds _)⟩
  · rintro surroundings globals checkArguments scenarioArguments rfl
      scenarioParsed
    constructor
    · intro checkParsed
      cases settled : settings surroundings globals
          (.scenario scenarioPath) with
      | error fault =>
          exact run_manifest_of_settings_error checkParsed scenarioParsed
            settled
      | ok config =>
          exact run_manifest_eq_run_scenario holds holds checkParsed
            scenarioParsed settled settled
    · intro checkParsed config settled
      have same (other : Surroundings)
          (otherHolds : HoldsCheck other.files manifestPath listingPath
            scenarioPath manifest listing)
          (otherSettled : settings other globals (.scenario scenarioPath) =
            .ok (withoutCompleteness config)) :
          run surroundings checkArguments = run other scenarioArguments :=
        run_manifest_eq_run_scenario holds otherHolds checkParsed
          scenarioParsed settled otherSettled
      exact ⟨same _ holds (settings_withoutCompleteness settled), same⟩

/-! ## A check that completeness decides -/

/-- Two files, and a digest of one of them. -/
def twoFiles : String :=
  "<l><hash><file>a</file><md5>00</md5></hash><file>b</file></l>"

/-- The digest again, and nothing on the other file. -/
def oneDigest : String := "MD5(a)= 00\n"

/-- The manifest in UTF-16, the listing, and the scenario of both. -/
def twoFilesSurroundings : Surroundings where
  files := (FileTree.ofEntries
    [("a.mhl", .file (ByteOrder.littleEndian.mark ++
        writeUtf16 .littleEndian twoFiles)),
      ("b.txt", .file (writeUtf8 oneDigest)),
      ("s.json", .file (writeUtf8 (Scenario.write
        (.manifestContents ⟨twoFiles, oneDigest, [], []⟩))))]).find
  environment := fun _ => none
  configHome := "home"

theorem holdsCheck_twoFiles :
    HoldsCheck twoFilesSurroundings.files "a.mhl" "b.txt" "s.json" twoFiles
      oneDigest where
  manifestFile := ⟨_, rfl, .marked16 .littleEndian⟩
  listingFile := rfl
  scenarioFile := by
    have fits : (Scenario.manifestContents
        ⟨twoFiles, oneDigest, [], []⟩).FitsWords :=
      ⟨List.forall_mem_nil _, List.forall_mem_nil _⟩
    exact ⟨_, rfl, Scenario.read_write fits⟩

/-- Options that say nothing. -/
def noGlobals : Globals := ⟨false, false, none, none⟩

theorem manifest_check_of_twoFiles :
    HoldsCheck twoFilesSurroundings.files "a.mhl" "b.txt" "s.json" twoFiles
      oneDigest ∧
    Agree
      (perform twoFilesSurroundings.files .standard noGlobals
        (.manifest "a.mhl" "b.txt" false))
      (perform twoFilesSurroundings.files .standard noGlobals
        (.scenario "s.json")) ∧
    run twoFilesSurroundings ["manifest", "a.mhl", "--expect", "b.txt"] =
      run twoFilesSurroundings ["scenario", "s.json"] ∧
    run twoFilesSurroundings
        ["manifest", "a.mhl", "--no-completeness", "--expect=b.txt"] =
      run twoFilesSurroundings.withoutCompleteness ["scenario", "s.json"] ∧
    (run twoFilesSurroundings
      ["manifest", "a.mhl", "--expect", "b.txt"]).exitStatus = 1 ∧
    (run twoFilesSurroundings
      ["manifest", "a.mhl", "--no-completeness",
        "--expect=b.txt"]).exitStatus = 0 := by
  have settled : settings twoFilesSurroundings noGlobals
      (.scenario "s.json") = .ok .standard :=
    toOption_eq_some_iff.mp (by decide +kernel)
  rcases manifest_check_agrees_with_scenario holdsCheck_twoFiles with
    ⟨performed, runs⟩
  rcases runs twoFilesSurroundings noGlobals
      ["manifest", "a.mhl", "--expect", "b.txt"] ["scenario", "s.json"] rfl
      (by decide +kernel) with ⟨whole, -⟩
  rcases runs twoFilesSurroundings noGlobals
      ["manifest", "a.mhl", "--no-completeness", "--expect=b.txt"]
      ["scenario", "s.json"] rfl (by decide +kernel) with ⟨-, part⟩
  exact ⟨holdsCheck_twoFiles, (performed .standard noGlobals).1,
    whole (by decide +kernel),
    (part (by decide +kernel) .standard settled).1,
    by decide +kernel, by decide +kernel⟩

end MediaHash.Command
