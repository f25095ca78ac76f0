import MediaHash.Proofs.Command.Settings
import MediaHash.Proofs.Digest.Scheduling

/-!
# Hashing by default

The default families of hashes are checked once, when a configuration is
loaded.  Neither the environment nor the options change them afterwards, so
whatever configuration a run comes to hold, a hasher can be made for its
default families and has work to do.

A run that hashes files without naming a family is therefore never refused
for a family.  If all paths lead to files, it lists one claim for each of
them and each of the distinct default families, in the order in which these
were first given.
-/

namespace MediaHash

namespace Config

/-! ## The default families stay as they are -/

/-- A variable changes nothing that its setting does not touch. -/
theorem mergeVariable_keeps {α β : Type} (view : Config → β) (name : String)
    (read? : String → Option α) {put : Config → α → Config}
    (keeps : ∀ config value, view (put config value) = view config)
    (environment : String → Option String)
    (state : Config × Option ConfigFault) :
    view (mergeVariable name read? put environment state).1 =
      view state.1 := by
  rcases state with ⟨config, _ | fault⟩
  · cases isSet : environment name with
    | none => simp only [mergeVariable, isSet]
    | some word =>
        cases said : read? word with
        | none => simp only [mergeVariable, isSet, said]
        | some value => simp only [mergeVariable, isSet, said, keeps]
  · rw [mergeVariable_of_fault]

theorem defaultHashTypes_mergeEnvironment
    (environment : String → Option String) (config : Config) :
    (mergeEnvironment environment config).1.defaultHashTypes =
      config.defaultHashTypes := by
  rw [mergeEnvironment, mergeVariable_keeps defaultHashTypes,
    mergeVariable_keeps defaultHashTypes, mergeVariable_keeps defaultHashTypes]
  all_goals exact fun config value => rfl

end Config

namespace Command

open Config

/--
The configurations that a run may come to hold: one that is accepted from a
file or the standard one, then the environment and the options.
-/
inductive Settled : Config → Prop
  | loaded (files : Files) (path : String) (config : Config)
      (accepted : load files path = .ok config) : Settled config
  | standard : Settled .standard
  | merged (environment : String → Option String) (config result : Config)
      (settled : Settled config)
      (isMerged : mergeEnvironment environment config = (result, none)) :
      Settled result
  | options (globals : Globals) (action : Action) (config : Config)
      (settled : Settled config) :
      Settled (applyOptions config globals action)

/-- Whatever configuration a run comes to hold, its families can be used. -/
theorem Settled.usable {config : Config} (settled : Settled config) :
    config.Usable := by
  induction settled with
  | loaded files path config accepted =>
      rcases load_eq_ok_iff.mp accepted with ⟨text, -, -, valid⟩
      exact validate_eq_ok_iff.mp valid
  | standard => exact usable_standard
  | merged environment config result settled isMerged usable =>
      have same := defaultHashTypes_mergeEnvironment environment config
      rw [isMerged] at same
      exact ⟨same ▸ usable.nonempty, same ▸ usable.digestible⟩
  | options globals action config settled usable =>
      exact ⟨usable.nonempty, usable.digestible⟩

theorem settled_of_settings {surroundings : Surroundings}
    {globals : Globals} {action : Action} {config : Config}
    (isSettings : settings surroundings globals action = .ok config) :
    Settled config := by
  rcases bind_eq_ok_iff.mp isSettings with ⟨loaded, isLoaded, laidOver⟩
  have origin : Settled loaded := by
    rcases loadOrDefault_cases isLoaded with ⟨path, accepted⟩ | rfl
    · exact .loaded _ path loaded accepted
    · exact .standard
  split at laidOver
  next => cases laidOver
  next merged isMerged =>
    cases laidOver
    exact .options globals action merged
      (.merged _ loaded merged origin isMerged)

/-! ## Hashing -/

theorem ne_unsupportedType_of_hashFile {hasher : Hasher} {files : Files}
    {path : String} {fault : HashingFault}
    (faulty : hasher.hashFile files path = .error fault) (name : String) :
    fault ≠ .unsupportedType name := by
  rintro rfl
  rw [Hasher.hashFile, Hasher.hashFileBy] at faulty
  split at faulty
  all_goals cases faulty

theorem comesTo_hashFiles {hasher : Hasher}
    (digestible : .null ∉ hasher.types) (files : Files)
    (paths : List String) :
    hasher.ComesTo files paths (hasher.hashFiles files paths) := by
  rw [Hasher.hashFiles_eq_hashInOrder]
  exact Hasher.comesTo_hashInOrder digestible paths

/-- Hashing fails for want of a file only, never for a family. -/
theorem ne_unsupportedType_of_comesTo {hasher : Hasher} {files : Files}
    {paths : List String} {fault : HashingFault}
    (comes : hasher.ComesTo files paths (.error fault)) (name : String) :
    fault ≠ .unsupportedType name := by
  cases comes with
  | fault before path after fault readable faulty =>
      exact ne_unsupportedType_of_hashFile faulty name

/-- Where every path leads to a file, all files are hashed. -/
theorem exists_groups_of_comesTo {hasher : Hasher} {files : Files}
    {paths : List String} {result : Except HashingFault Listing}
    (comes : hasher.ComesTo files paths result)
    (readable : ∀ path ∈ paths, ∃ content, files path = .ok (.file content)) :
    ∃ groups, result = .ok ⟨groups.flatten⟩ ∧
      List.Forall₂ (hasher.StatesDigests files) paths groups := by
  cases comes with
  | listing paths groups each => exact ⟨groups, rfl, each⟩
  | fault before path after fault earlier faulty =>
      rcases readable path (by simp) with ⟨content, found⟩
      rw [Hasher.hashFile, Hasher.hashFileBy, found] at faulty
      cases faulty

/-- Without named families the default ones are computed. -/
theorem execute_hash_default {config : Config} {hasher : Hasher}
    (made : Hasher.ofTypes config.defaultHashTypes = .ok hasher)
    (files : Files) (paths : List String) :
    execute files config (.hash paths []) =
      ((hasher.hashFiles files paths).mapError fun fault =>
        .input (.hashing fault)).map
          fun listing => .listing listing.claims := by
  simp only [execute, List.isEmpty_nil, if_true, made, bind, Except.bind]
  cases hasher.hashFiles files paths with
  | error fault => rfl
  | ok listing => rfl

/-- What hashing by default gives under given settings. -/
structure HashesByDefault (config : Config) (hasher : Hasher) : Prop where
  made : Hasher.ofTypes config.defaultHashTypes = .ok hasher
  firstSeen : FirstSeen config.defaultHashTypes hasher.types
  positive : 1 ≤ hasher.types.length
  accepted : ∀ files paths name,
    execute files config (.hash paths []) ≠
      .error (.input (.hashing (.unsupportedType name)))
  covered : ∀ files paths,
    (∀ path ∈ paths, ∃ content, files path = .ok (.file content)) →
    ∃ groups,
      execute files config (.hash paths []) =
        .ok (.listing groups.flatten) ∧
      List.Forall₂ (fun path group =>
          hasher.StatesDigests files path group ∧
            group.length = hasher.types.length)
        paths groups

theorem length_of_statesDigests {hasher : Hasher} {files : Files}
    {path : String} {group : List Claim}
    (states : hasher.StatesDigests files path group) :
    group.length = hasher.types.length := by
  rcases states with ⟨content, -, each⟩
  exact each.length_eq.symm

theorem exists_hashesByDefault {config : Config} (usable : config.Usable) :
    ∃ hasher, HashesByDefault config hasher := by
  rcases usable with ⟨nonempty, digestible⟩
  have made : Hasher.ofTypes config.defaultHashTypes = .ok
      ⟨config.defaultHashTypes.eraseDups, Hasher.defaultConcurrency⟩ :=
    Hasher.ofTypes_eq_ok_iff.mpr ⟨digestible, rfl⟩
  have distinct := firstSeen_eraseDups config.defaultHashTypes
  have comes := @comesTo_hashFiles
    ⟨config.defaultHashTypes.eraseDups, Hasher.defaultConcurrency⟩
    (mt (distinct.mem_iff _).mp digestible)
  refine ⟨_, made, distinct, ?_, ?_, ?_⟩
  · rcases List.exists_mem_of_ne_nil _ nonempty with ⟨family, member⟩
    exact List.length_pos_of_mem ((distinct.mem_iff family).mpr member)
  · intro files paths name refused
    have come := comes files paths
    rw [execute_hash_default made] at refused
    cases hashed : Hasher.hashFiles _ files paths with
    | error fault =>
        rw [hashed] at come refused
        cases refused
        exact ne_unsupportedType_of_comesTo come name rfl
    | ok listing =>
        rw [hashed] at refused
        cases refused
  · intro files paths readable
    rcases exists_groups_of_comesTo (comes files paths) readable with
      ⟨groups, hashed, each⟩
    refine ⟨groups, ?_, each.imp fun path group states =>
      ⟨states, length_of_statesDigests states⟩⟩
    rw [execute_hash_default made, hashed]
    rfl

/--
Every configuration that a run comes to hold, from whatever file and with
whatever environment and options, has default families, each of them with a
digest.  Hashing by default is never refused for a family.  If every path
leads to a file, there is one group of claims for each path, in order, with
one claim for each distinct family, in the order in which the families were
first given.
-/
theorem default_hashing_covers_files :
    (∀ config, Settled config →
      config.defaultHashTypes ≠ [] ∧ .null ∉ config.defaultHashTypes ∧
        ∃ hasher, HashesByDefault config hasher) ∧
    ∀ surroundings globals paths,
      (∀ config,
        settings surroundings globals (.hash paths []) = .ok config →
          Settled config) ∧
      ∀ arguments,
        parse arguments = some (.run globals (.hash paths [])) →
        ∀ name, (run surroundings arguments).failure ≠
          some (.input (.hashing (.unsupportedType name))) := by
  refine ⟨?_, ?_⟩
  · intro config settled
    have usable := settled.usable
    exact ⟨usable.nonempty, usable.digestible, exists_hashesByDefault usable⟩
  · intro surroundings globals paths
    refine ⟨fun config => settled_of_settings, ?_⟩
    intro arguments parsed name refused
    cases isSettings : settings surroundings globals (.hash paths []) with
    | error fault =>
        rw [run_of_settings_error parsed isSettings] at refused
        cases refused
    | ok config =>
        rcases exists_hashesByDefault (settled_of_settings isSettings).usable
          with ⟨hasher, hashes⟩
        rw [run_of_settings parsed isSettings, outcomeOf] at refused
        split at refused
        next failure failed =>
          cases refused
          exact hashes.accepted _ _ _ failed
        next result done =>
          split at refused
          next unwritable => cases refused
          next text written => cases refused

/-- A configuration file in which a family comes twice, and a file. -/
def twiceNamed : Surroundings where
  files := (FileTree.ofEntries
    [("c.toml", .file (Encoding.writeUtf8
      "[oracle]\ndefault_hash_types = [\"sha1\", \"md5\", \"sha1\"]\n")),
      ("clip", .file [0x61])]).find
  environment := fun _ => none
  configHome := "home"

/-- The options that name the configuration file. -/
def twiceNamedGlobals : Globals :=
  ⟨false, false, none, some "c.toml"⟩

/-- One claim for each of two families, and a file that is not there. -/
theorem default_hashing_of_twiceNamed :
    (∃ config,
      settings twiceNamed twiceNamedGlobals (.hash ["clip"] []) =
          .ok config ∧
        config.defaultHashTypes = [.sha1, .md5, .sha1] ∧
        ∃ group,
          execute twiceNamed.files config (.hash ["clip"] []) =
              .ok (.listing group) ∧
            group.length = 2) ∧
      (run twiceNamed ["--config", "c.toml", "hash", "lost"]).failure ≠
        some (.input (.hashing (.unsupportedType "null"))) := by
  have isSettings : settings twiceNamed twiceNamedGlobals
      (.hash ["clip"] []) = .ok { Config.standard with
        defaultHashTypes := [.sha1, .md5, .sha1] } :=
    toOption_eq_some_iff.mp (by decide +kernel)
  rcases default_hashing_covers_files with ⟨settledCovers, runs⟩
  refine ⟨⟨_, isSettings, rfl, ?_⟩, ?_⟩
  · rcases runs twiceNamed twiceNamedGlobals ["clip"] with ⟨isSettled, -⟩
    rcases settledCovers _ (isSettled _ isSettings) with
      ⟨-, -, hasher, hashes⟩
    rcases hashes.covered twiceNamed.files ["clip"]
        (List.forall_mem_singleton.mpr ⟨[0x61], rfl⟩) with
      ⟨groups, executed, each⟩
    have twoFamilies : hasher = ⟨[.sha1, .md5], 4⟩ := by
      have made := hashes.made
      rw [Hasher.ofTypes_eq_ok_iff] at made
      exact made.2.symm.trans (by decide)
    rcases List.forall₂_cons_left_iff.mp each with
      ⟨group, others, ⟨-, length⟩, rest, rfl⟩
    cases rest
    refine ⟨group, ?_, ?_⟩
    · rw [executed, List.flatten_singleton]
    · rw [length, twoFamilies]
      rfl
  · exact (runs twiceNamed twiceNamedGlobals ["lost"]).2 _
      (by decide +kernel) "null"

end Command

end MediaHash
