import MediaHash.Proofs.Check.Completeness
import MediaHash.Proofs.Check.Deciding

/-!
# Agreement of the checks

Completeness looks for a path among the files of a document, and the checks
of values and counts among its records.  The paths of records are among the
files, so the checks never contradict each other: where completeness misses a
path, all facts about the path are missing too, and where any fact about a
path is found, completeness finds the path.
-/

namespace MediaHash

open Manifest (Record)

theorem Manifest.recordsFor_eq_nil {document path : String}
    {manifest : Manifest} (read : Manifest.read document = .ok manifest)
    (unrecorded : path ∉ manifest.files) : manifest.recordsFor path = [] := by
  rw [recordsFor, List.filter_eq_nil_iff]
  intro record member samePath
  rw [beq_iff_eq] at samePath
  have isFile : path ∈ (↑manifest.files : Multiset String) :=
    Multiset.mem_of_le (paths_le_files read)
      (samePath ▸ List.mem_map_of_mem member)
  exact unrecorded isFile

theorem ExpectedValue.recorded_eq_nil {manifest : Manifest}
    {matching : TagMatching} {item : ExpectedValue}
    (none : manifest.recordsFor item.path = []) :
    item.recorded manifest matching = [] := by
  cases item with
  | digest path family digest =>
      rw [ExpectedValue.path] at none
      rw [recorded, none]
      rfl
  | size path size =>
      rw [ExpectedValue.path] at none
      rw [recorded, Manifest.sizesFor, none]
      rfl

namespace Check

variable {manifest : Manifest} {table : Expectations}
  {matching : TagMatching} {path : String}

/-! ## Values and counts -/

theorem mem_values_iff_item {verdict : Verdict} :
    verdict ∈ values manifest table matching ↔
      ∃ item ∈ table.items, verdictOn manifest matching item = verdict := by
  rw [values_eq_map, List.mem_map]

theorem path_of_path?_verdictOn {item : ExpectedValue}
    (about : (verdictOn manifest matching item).path? = some path) :
    item.path = path := by
  have subject := (decided_verdictOn manifest matching item).subject_eq
  exact Option.some_inj.mp ((congrArg Prod.fst subject).symm.trans about)

theorem kind?_values_of_recordsFor_eq_nil
    (none : manifest.recordsFor path = []) {verdict : Verdict}
    (member : verdict ∈ values manifest table matching)
    (about : verdict.path? = some path) :
    verdict.kind? = some .missingPath := by
  rcases mem_values_iff_item.mp member with ⟨item, -, rfl⟩
  cases path_of_path?_verdictOn about
  have decided := decided_verdictOn manifest matching item
  rw [decided.eq_of_none]
  · rfl
  · rw [ExpectedValue.recorded_eq_nil none]
    exact fun _ => List.not_mem_nil

theorem path?_tagCount (expected : TagCount) :
    (tagCount manifest expected).path? = some expected.path := by
  rw [tagCount]
  split
  next => rfl
  next =>
    split
    next => rfl
    next => rfl

theorem kind?_tagCounts_of_recordsFor_eq_nil
    (none : manifest.recordsFor path = []) {counts : List TagCount}
    {verdict : Verdict} (member : verdict ∈ tagCounts manifest counts)
    (about : verdict.path? = some path) :
    verdict.kind? = some .missingPath := by
  rcases List.mem_map.mp member with ⟨expected, -, rfl⟩
  rw [path?_tagCount, Option.some_inj] at about
  have nothing : manifest.fieldCount expected.path expected.tag = 0 := by
    rw [Manifest.fieldCount, Manifest.digestsFor, about, none]
    rfl
  rw [tagCount, if_pos nothing]
  rfl

/-! ## Presence -/

theorem Placed.path?_eq {isExpected isRecorded : Prop} {verdict : Verdict}
    (placed : Placed isExpected isRecorded path verdict) :
    verdict.path? = some path := by
  cases placed <;> rfl

theorem placed_of_mem_completeness {verdict : Verdict}
    (member : verdict ∈ completeness manifest table)
    (about : verdict.path? = some path) :
    Placed (table.contains path = true) (path ∈ manifest.files) path
      verdict := by
  rcases exists_of_forall₂_of_mem
    (forall₂_placed_completeness manifest table).flip member with
    ⟨other, -, placed⟩
  have placedOther : Placed _ _ other verdict := placed
  cases Option.some_inj.mp (placedOther.path?_eq.symm.trans about)
  exact placed

theorem not_mem_files_of_missing {verdict : Verdict}
    (member : verdict ∈ completeness manifest table)
    (about : verdict.path? = some path)
    (missing : verdict.kind? = some .missingPath) :
    path ∉ manifest.files := by
  cases placed_of_mem_completeness member about with
  | both => cases missing
  | missing _ unrecorded => exact unrecorded
  | extra => cases missing

/-- What completeness says of a path that is expected and recorded. -/
theorem eq_matched_of_mem_completeness {verdict : Verdict}
    (isExpected : table.contains path = true)
    (isRecorded : path ∈ manifest.files)
    (member : verdict ∈ completeness manifest table)
    (about : verdict.path? = some path) :
    verdict = .matched .presence (some path) := by
  cases placed_of_mem_completeness member about with
  | both => rfl
  | missing _ unrecorded => exact absurd isRecorded unrecorded
  | extra unexpected => exact absurd isExpected unexpected

theorem exists_completeness_of_contains (manifest : Manifest)
    (isExpected : table.contains path = true) :
    ∃ verdict ∈ completeness manifest table, verdict.path? = some path := by
  have listed : path ∈ table.paths.map Prod.fst ++ unexpected manifest table :=
    List.mem_append_left _ (Keyed.contains_iff.mp isExpected)
  rcases exists_of_forall₂_of_mem
    (forall₂_placed_completeness manifest table) listed with
    ⟨verdict, member, placed⟩
  exact ⟨verdict, member, placed.path?_eq⟩

theorem contains_of_mem_values {verdict : Verdict}
    (member : verdict ∈ values manifest table matching)
    (about : verdict.path? = some path) : table.contains path = true := by
  rcases mem_values_iff_item.mp member with ⟨item, isItem, rfl⟩
  cases path_of_path?_verdictOn about
  rcases List.mem_flatMap.mp isItem with ⟨⟨other, facts⟩, isEntry, inEntry⟩
  rw [ExpectedFacts.path_of_mem_items inEntry]
  exact Keyed.contains_iff.mpr (List.mem_map_of_mem isEntry)

/-! ## Both checks -/

/--
The paths of the records of a document are among its files, each at least as
often.  Where completeness misses a path, every verdict on a value or a count
of the path misses it too, and where some verdict on a value of a path does
not miss it, completeness finds the path.
-/
theorem presence_agrees_with_values {document : String}
    (read : Manifest.read document = .ok manifest) :
    (↑(manifest.records.map Record.path) : Multiset String) ≤
      ↑manifest.files ∧
    ∀ (table : Expectations) (matching : TagMatching) (path : String),
      ((∃ verdict ∈ completeness manifest table,
          verdict.path? = some path ∧ verdict.kind? = some .missingPath) →
        (∀ value ∈ values manifest table matching,
          value.path? = some path → value.kind? = some .missingPath) ∧
        ∀ counts, ∀ count ∈ tagCounts manifest counts,
          count.path? = some path → count.kind? = some .missingPath) ∧
      ((∃ value ∈ values manifest table matching,
          value.path? = some path ∧ value.kind? ≠ some .missingPath) →
        .matched .presence (some path) ∈ completeness manifest table ∧
        ∀ verdict ∈ completeness manifest table,
          verdict.path? = some path →
            verdict = .matched .presence (some path)) := by
  refine ⟨Manifest.paths_le_files read, fun table matching path => ⟨?_, ?_⟩⟩
  · rintro ⟨verdict, member, about, missing⟩
    have none : manifest.recordsFor path = [] :=
      Manifest.recordsFor_eq_nil read
        (not_mem_files_of_missing member about missing)
    exact ⟨fun _ => kind?_values_of_recordsFor_eq_nil none,
      fun _ _ => kind?_tagCounts_of_recordsFor_eq_nil none⟩
  · rintro ⟨value, member, about, notMissing⟩
    have isExpected : table.contains path = true :=
      contains_of_mem_values member about
    have isRecorded : path ∈ manifest.files := by
      by_contra unrecorded
      exact notMissing (kind?_values_of_recordsFor_eq_nil
        (Manifest.recordsFor_eq_nil read unrecorded) member about)
    rcases exists_completeness_of_contains manifest isExpected with
      ⟨verdict, isVerdict, sameSubject⟩
    have found := eq_matched_of_mem_completeness isExpected isRecorded
      isVerdict sameSubject
    exact ⟨found ▸ isVerdict, fun _ =>
      eq_matched_of_mem_completeness isExpected isRecorded⟩

/-! ## Paths with and without a record -/

/-- Digests of a path with a record, of a loose file, and of no file. -/
def threeDigests : Expectations :=
  .demandAll .empty
    [.digest "a" "file" "a", .digest "b" "md5" "00", .digest "c" "md5" "00"]

/-- A missing path has no digest, and a conflict needs a path. -/
theorem agreement_on_looseFile :
    Manifest.read looseFile = .ok looseFileManifest ∧
    (↑(looseFileManifest.records.map Record.path) : Multiset String) ≤
      ↑looseFileManifest.files ∧
    (∀ value ∈ values looseFileManifest threeDigests .exact,
      value.path? = some "c" → value.kind? = some .missingPath) ∧
    .matched .presence (some "a") ∈
      completeness looseFileManifest threeDigests := by
  rcases presence_agrees_with_values read_looseFile with ⟨paths, agree⟩
  have missing : Verdict.mismatch .presence .missingPath (some "c")
      "present" "absent" ∈ completeness looseFileManifest threeDigests := by
    decide
  have conflict : Verdict.mismatch (.hash "file") .duplicateConflictingValue
      (some "a") "a" "a, b" ∈
        values looseFileManifest threeDigests .exact := by
    decide
  exact ⟨read_looseFile, paths,
    ((agree threeDigests .exact "c").1 ⟨_, missing, rfl, rfl⟩).1,
    ((agree threeDigests .exact "a").2 ⟨_, conflict, rfl, by decide⟩).1⟩

end Check

end MediaHash
