import Mathlib.Data.Option.Basic
import MediaHash.Config.Toml

/-!
# What a configuration document says

A document may leave every setting open, by leaving out a key or the table
that it belongs to.  A configuration that is read from a document has the
values that stand there, and for each setting that is left open the standard
one, whatever else the document says.
-/

namespace MediaHash

open Toml (Node)

/-! ## Keys of a table -/

namespace Toml.Node

/-- The value of a key of a table; an array has it in the place of the key. -/
def valueOf? (keys : List String) (key : String) : Node → Option Node
  | .table _ entries => entries.lookup key
  | node => (items? node).bind fun items => items[keys.idxOf key]?

/-- What stands in the places of an array, missing ones at the end. -/
theorem take_places {keys : List String} (nodup : keys.Nodup)
    (items : List Node) :
    (items.map some ++ keys.map fun _ => none).take keys.length =
      keys.map fun key => items[keys.idxOf key]? := by
  apply List.ext_getElem
  · simp
  · intro place here there
    rw [List.getElem_take, List.getElem_map, nodup.idxOf_getElem,
      List.getElem_append]
    split
    next given =>
      rw [List.length_map] at given
      rw [List.getElem_map, List.getElem?_eq_getElem given]
    next beyond =>
      rw [List.length_map, Nat.not_lt] at beyond
      rw [List.getElem_map, List.getElem?_eq_none beyond]

/-- The fields of a table are the values of its keys. -/
theorem eq_valueOf?_of_fields? {keys : List String} (nodup : keys.Nodup)
    {node : Node} {values : List (Option Node)}
    (read : fields? keys node = some values) :
    values = keys.map fun key => valueOf? keys key node := by
  cases node with
  | table form entries =>
      rw [fields?] at read
      split at read
      next sound => exact (Option.some.inj read).symm
      next unsound => cases read
  | date =>
      cases read
      rfl
  | array items =>
      cases read
      exact take_places nodup items
  | tables items =>
      cases read
      exact take_places nodup _
  | string value => cases read
  | integer value => cases read
  | boolean value => cases read
  | float => cases read
  | excessive => cases read

/-- Whatever is made of the fields of a table is made of its values. -/
theorem eq_some_of_fields?_bind {α : Type} {keys : List String}
    (nodup : keys.Nodup) {node : Node}
    {next : List (Option Node) → Option α} {result : α}
    (read : (fields? keys node >>= next) = some result) :
    next (keys.map fun key => valueOf? keys key node) = some result := by
  rcases Option.bind_eq_some_iff.mp read with ⟨values, areValues, made⟩
  rwa [eq_valueOf?_of_fields? nodup areValues] at made

end Toml.Node

open Toml.Node

/-! ## Values that may be left open -/

/--
The value that stands at a node, as a reader takes it; where no node is, the
value is left open.
-/
abbrev Stands {α : Type} (read? : Node → Option α) :
    Option Node → Option α → Prop :=
  Option.Rel fun node value => read? node = some value

theorem exists_stands_of_orElse {α : Type} {missing value : α}
    {read? : Node → Option α} {node : Option Node}
    (read : orElse missing read? node = some value) :
    ∃ given, Stands read? node given ∧ value = given.getD missing := by
  cases node with
  | none =>
      cases read
      exact ⟨none, .none, rfl⟩
  | some node => exact ⟨some value, .some read, rfl⟩

namespace Config

theorem stands_of_exitNumber? {isTable : Bool} {node : Option Node}
    {number : Option Int} (read : exitNumber? isTable node = some number) :
    Stands int32? node number := by
  cases node with
  | none =>
      rw [exitNumber?] at read
      split at read
      next => cases read; exact .none
      next => cases read
  | some node =>
      rcases Option.map_eq_some_iff.mp read with ⟨value, isValue, rfl⟩
      exact .some isValue

/-- A table of the document with its keys. -/
structure Table where
  name : String
  keys : List String

/-- How results are presented. -/
def generalTable : Table :=
  ⟨"general", ["default_output", "color"]⟩

/-- How manifests are judged and which digests are computed. -/
def oracleTable : Table :=
  ⟨"oracle", ["strict_completeness", "case_insensitive_hashtype",
    "default_hash_types"]⟩

/-- Which numbers the tool under test uses. -/
def exitTable : Table :=
  ⟨"exit_codes", ["size_mismatch", "hash_mismatch", "no_such_file",
    "invalid_sequence", "gap_in_sequence"]⟩

/-- The tables of the document. -/
def tableNames : List String :=
  [generalTable.name, oracleTable.name, exitTable.name]

/-- What stands under a key of a table that may be missing. -/
def under? (node : Option Node) (table : Table) (key : String) :
    Option Node :=
  node.bind (valueOf? table.keys key)

/-- What stands in a document under a key of one of its tables. -/
def setting? (document : Option Node) (table : Table) (key : String) :
    Option Node :=
  under? (document.bind (valueOf? tableNames table.name)) table key

/-- Settings of one source, each of which it may leave open. -/
structure Layer where
  defaultOutput : Option OutputFormat
  color : Option ColorChoice
  strictCompleteness : Option Bool
  caseInsensitiveHashType : Option Bool
  defaultHashTypes : Option (List HashType)
  exitNumbers : ExitNumbers

/-- The configuration with the standard settings where none is given. -/
def Layer.complete (layer : Layer) : Config where
  defaultOutput := layer.defaultOutput.getD .tty
  color := layer.color.getD .auto
  strictCompleteness := layer.strictCompleteness.getD true
  caseInsensitiveHashType := layer.caseInsensitiveHashType.getD true
  defaultHashTypes := layer.defaultHashTypes.getD [.md5]
  exitNumbers := layer.exitNumbers

/-- The numbers are those that stand under the keys of a table. -/
structure NumbersSaidBy (numbers : ExitNumbers)
    (valueUnder? : String → Option Node) : Prop where
  sizeMismatch : Stands int32? (valueUnder? "size_mismatch")
    numbers.sizeMismatch
  hashMismatch : Stands int32? (valueUnder? "hash_mismatch")
    numbers.hashMismatch
  noSuchFile : Stands int32? (valueUnder? "no_such_file")
    numbers.noSuchFile
  invalidSequence : Stands int32? (valueUnder? "invalid_sequence")
    numbers.invalidSequence
  gapInSequence : Stands int32? (valueUnder? "gap_in_sequence")
    numbers.gapInSequence

/-- The settings are those that stand in a document. -/
structure Layer.SaidBy (layer : Layer) (document : Option Node) : Prop where
  defaultOutput : Stands (name? OutputFormat.ofName?)
    (setting? document generalTable "default_output") layer.defaultOutput
  color : Stands (name? ColorChoice.ofName?)
    (setting? document generalTable "color") layer.color
  strictCompleteness : Stands boolean?
    (setting? document oracleTable "strict_completeness")
    layer.strictCompleteness
  caseInsensitiveHashType : Stands boolean?
    (setting? document oracleTable "case_insensitive_hashtype")
    layer.caseInsensitiveHashType
  defaultHashTypes : Stands (names? HashType.ofTag?)
    (setting? document oracleTable "default_hash_types")
    layer.defaultHashTypes
  exitNumbers : NumbersSaidBy layer.exitNumbers (setting? document exitTable)

/-- The settings of no source at all. -/
def Layer.open : Layer :=
  ⟨none, none, none, none, none, .standard⟩

theorem Layer.saidBy_none : Layer.open.SaidBy none :=
  ⟨.none, .none, .none, .none, .none, .none, .none, .none, .none, .none⟩

/-! ## Reading -/

section Reading

variable {node : Option Node} {config result : Config}

theorem stands_of_readGeneral
    (read : readTable readGeneral node config = some result) :
    ∃ output color,
      Stands (name? OutputFormat.ofName?)
        (under? node generalTable "default_output") output ∧
      Stands (name? ColorChoice.ofName?)
        (under? node generalTable "color") color ∧
      result = { config with
        defaultOutput := output.getD config.defaultOutput
        color := color.getD config.color } := by
  cases node with
  | none =>
      cases read
      exact ⟨none, none, .none, .none, rfl⟩
  | some node =>
      rw [readTable, readGeneral] at read
      have read := eq_some_of_fields?_bind (by decide) read
      simp only [List.map_cons, List.map_nil, Option.bind_eq_bind,
        Option.bind_eq_some_iff, Option.some.injEq] at read
      rcases read with ⟨output, isOutput, color, isColor, rfl⟩
      rcases exists_stands_of_orElse isOutput with ⟨_, outputStands, rfl⟩
      rcases exists_stands_of_orElse isColor with ⟨_, colorStands, rfl⟩
      exact ⟨_, _, outputStands, colorStands, rfl⟩

theorem stands_of_readOracle
    (read : readTable readOracle node config = some result) :
    ∃ strict insensitive types,
      Stands boolean? (under? node oracleTable "strict_completeness")
        strict ∧
      Stands boolean? (under? node oracleTable "case_insensitive_hashtype")
        insensitive ∧
      Stands (names? HashType.ofTag?)
        (under? node oracleTable "default_hash_types") types ∧
      result = { config with
        strictCompleteness := strict.getD config.strictCompleteness
        caseInsensitiveHashType :=
          insensitive.getD config.caseInsensitiveHashType
        defaultHashTypes := types.getD config.defaultHashTypes } := by
  cases node with
  | none =>
      cases read
      exact ⟨none, none, none, .none, .none, .none, rfl⟩
  | some node =>
      rw [readTable, readOracle] at read
      have read := eq_some_of_fields?_bind (by decide) read
      simp only [List.map_cons, List.map_nil, Option.bind_eq_bind,
        Option.bind_eq_some_iff, Option.some.injEq] at read
      rcases read with
        ⟨strict, isStrict, insensitive, isInsensitive, types, areTypes, rfl⟩
      rcases exists_stands_of_orElse isStrict with ⟨_, strictStands, rfl⟩
      rcases exists_stands_of_orElse isInsensitive with
        ⟨_, insensitiveStands, rfl⟩
      rcases exists_stands_of_orElse areTypes with ⟨_, typesStand, rfl⟩
      exact ⟨_, _, _, strictStands, insensitiveStands, typesStand, rfl⟩

theorem stands_of_readExitCodes
    (standard : config.exitNumbers = .standard)
    (read : readTable readExitCodes node config = some result) :
    ∃ numbers, NumbersSaidBy numbers (under? node exitTable) ∧
      result = { config with exitNumbers := numbers } := by
  cases node with
  | none =>
      cases read
      refine ⟨.standard, ⟨.none, .none, .none, .none, .none⟩, ?_⟩
      rw [← standard]
  | some node =>
      rw [readTable, readExitCodes] at read
      have read := eq_some_of_fields?_bind (by decide) read
      simp only [List.map_cons, List.map_nil, Option.bind_eq_bind,
        Option.bind_eq_some_iff, Option.some.injEq] at read
      rcases read with ⟨size, isSize, hash, isHash, missing, isMissing,
        invalid, isInvalid, gap, isGap, rfl⟩
      exact ⟨_, ⟨stands_of_exitNumber? isSize, stands_of_exitNumber? isHash,
        stands_of_exitNumber? isMissing, stands_of_exitNumber? isInvalid,
        stands_of_exitNumber? isGap⟩, rfl⟩

end Reading

/-- A configuration has what stands in its document. -/
theorem exists_layer_of_ofNode? {document : Node} {config : Config}
    (read : ofNode? document = some config) :
    ∃ layer : Layer, layer.SaidBy (some document) ∧
      config = layer.complete := by
  rw [ofNode?] at read
  have read := eq_some_of_fields?_bind (by decide) read
  simp only [List.map_cons, List.map_nil, Option.bind_eq_bind,
    Option.bind_eq_some_iff] at read
  rcases read with ⟨first, general, second, oracle, exitCodes⟩
  rcases stands_of_readGeneral general with
    ⟨output, color, outputStands, colorStands, rfl⟩
  rcases stands_of_readOracle oracle with
    ⟨strict, insensitive, types, strictStands, insensitiveStands, typesStand,
      rfl⟩
  rcases stands_of_readExitCodes rfl exitCodes with
    ⟨numbers, numbersStand, rfl⟩
  exact ⟨⟨output, color, strict, insensitive, types, numbers⟩,
    ⟨outputStands, colorStands, strictStands, insensitiveStands, typesStand,
      numbersStand⟩, rfl⟩

end Config

end MediaHash
