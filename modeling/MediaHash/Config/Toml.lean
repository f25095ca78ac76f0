import MediaHash.Config.Basic
import MediaHash.FileTree
import MediaHash.Toml.Document

/-!
# Configuration files

A configuration file is a TOML document with the tables `general`, `oracle`
and `exit_codes`.  All of them and all of their keys may be missing; other
tables and keys are passed over, but the numbers in them must not be too
great to be held.  A table may also be written as an array of its values in
order, and one of several names as a table that holds nothing but an empty
value under the name.
-/

namespace MediaHash

open Toml (Node)

namespace Toml.Node

/-- The items of an array, also of one that headers build up. -/
def items? : Node → Option (List Node)
  | .array items => some items
  | .tables items => some (items.reverse.map (.table .headed))
  | _ => none

/-- The entries that are passed over have no number that is too great. -/
def othersAreSound (keys : List String) (entries : Toml.Entries) : Bool :=
  Toml.areSoundEntries
    (entries.filter fun entry => !keys.contains entry.1)

/--
The values of the keys of a table, each of them there or missing.  What an
array holds behind them is not looked at.
-/
def fields? (keys : List String) : Node → Option (List (Option Node))
  | .table _ entries =>
      if othersAreSound keys entries then
        some (keys.map fun key => entries.lookup key)
      else none
  | .date => some (keys.map fun _ => none)
  | node => do
      let items ← items? node
      some ((items.map some ++ keys.map fun _ => none).take keys.length)

/-- A truth value. -/
def boolean? : Node → Option Bool
  | .boolean value => some value
  | _ => none

/-- A whole number that fits 32 bits with a sign. -/
def int32? : Node → Option Int
  | .integer value =>
      if -2147483648 ≤ value ∧ value ≤ 2147483647 then some value else none
  | _ => none

/-- A table or array that holds nothing. -/
def isEmpty : Node → Bool
  | .table _ entries => entries.isEmpty
  | .array items => items.isEmpty
  | .tables items => items.isEmpty
  | _ => false

/-- One of several names. -/
def name? {α : Type} (ofName? : String → Option α) : Node → Option α
  | .string name => ofName? name
  | .table _ [(name, value)] =>
      if value.isEmpty then ofName? name else none
  | _ => none

/-- A list of names. -/
def names? {α : Type} (ofName? : String → Option α) (node : Node) :
    Option (List α) := do
  let items ← items? node
  items.mapM (name? ofName?)

/-- A value that need not be there. -/
def orElse {α : Type} (missing : α) (read? : Node → Option α) :
    Option Node → Option α
  | some node => read? node
  | none => some missing

end Toml.Node

namespace Config

open Toml.Node

/-- Read the table `general`. -/
def readGeneral (node : Node) (config : Config) : Option Config := do
  let [output, color] ← fields? ["default_output", "color"] node | none
  some { config with
    defaultOutput :=
      ← orElse config.defaultOutput (name? OutputFormat.ofName?) output
    color := ← orElse config.color (name? ColorChoice.ofName?) color }

/-- Read the table `oracle`. -/
def readOracle (node : Node) (config : Config) : Option Config := do
  let [strict, insensitive, types] ← fields?
    ["strict_completeness", "case_insensitive_hashtype",
      "default_hash_types"] node | none
  some { config with
    strictCompleteness :=
      ← orElse config.strictCompleteness boolean? strict
    caseInsensitiveHashType :=
      ← orElse config.caseInsensitiveHashType boolean? insensitive
    defaultHashTypes :=
      ← orElse config.defaultHashTypes (names? HashType.ofTag?) types }

/-- A number of the table `exit_codes`; only in a table may it be missing. -/
def exitNumber? (isTable : Bool) :
    Option Node → Option (Option Int)
  | some node => some <$> int32? node
  | none => if isTable then some none else none

/-- Read the table `exit_codes`. -/
def readExitCodes (node : Node) (config : Config) : Option Config := do
  let [size, hash, missing, invalid, gap] ← fields?
    ["size_mismatch", "hash_mismatch", "no_such_file", "invalid_sequence",
      "gap_in_sequence"] node | none
  let read? := exitNumber? (items? node).isNone
  some { config with
    exitNumbers :=
      ⟨← read? size, ← read? hash, ← read? missing, ← read? invalid,
        ← read? gap⟩ }

/-- Read a table of the document if it is there. -/
def readTable (read : Node → Config → Option Config) (node : Option Node)
    (config : Config) : Option Config :=
  match node with
  | some node => read node config
  | none => some config

/-- The configuration that a document describes. -/
def ofNode? (document : Node) : Option Config := do
  let [general, oracle, exitCodes] ←
    fields? ["general", "oracle", "exit_codes"] document | none
  let config ← readTable readGeneral general .standard
  let config ← readTable readOracle oracle config
  readTable readExitCodes exitCodes config

/-- Read a configuration from the text of a document. -/
def read (text : String) : Except ConfigFault Config :=
  match Toml.read text with
  | none => .error (.malformed "the text is not a TOML document")
  | some document =>
      match ofNode? document with
      | some config => .ok config
      | none =>
          .error (.malformed "the document does not describe a configuration")

/-- Read a configuration from a file, and refuse what cannot be honored. -/
def load (files : Files) (path : String) : Except ConfigFault Config := do
  match files.text path with
  | .error _ => .error (.notFound path)
  | .ok text =>
      let config ← read text
      config.validate
      .ok config

/-- The place of a configuration file below the directory for such files. -/
def defaultPath (configHome : String) : String :=
  configHome ++ "/mhlcheck/config.toml"

/-- Read the configuration of a path, or else the user's if there is one. -/
def loadOrDefault (files : Files) (configHome : String) :
    Option String → Except ConfigFault Config
  | some path => load files path
  | none =>
      if files.holds (defaultPath configHome) then
        load files (defaultPath configHome)
      else .ok standard

end Config

end MediaHash
