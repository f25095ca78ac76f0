import MediaHash.Proofs.Check.Passing
import MediaHash.Proofs.Encoding.Ordering
import MediaHash.Proofs.Manifest.Paths

/-!
# Completeness compares two sets of paths

The paths that a table expects are walked first, then the paths of the
document that are not among them.  Together this is the union of both sets,
each path once, however often the document repeats it.  The verdict on a path
says in which of the two sets it is, so that all verdicts are matches exactly
if the sets are equal.
-/

namespace MediaHash

open Encoding (writeUtf8)

namespace Check

/-- The verdict on a path that is in one of two sets, or in both. -/
inductive Placed (isExpected isRecorded : Prop) (path : String) :
    Verdict → Prop
  | both (expected : isExpected) (recorded : isRecorded) :
      Placed isExpected isRecorded path (.matched .presence (some path))
  | missing (expected : isExpected) (unrecorded : ¬ isRecorded) :
      Placed isExpected isRecorded path
        (.mismatch .presence .missingPath (some path) "present" "absent")
  | extra (unexpected : ¬ isExpected) (recorded : isRecorded) :
      Placed isExpected isRecorded path
        (.mismatch .presence .extraPath (some path) "absent" "present")

variable {manifest : Manifest} {table : Expectations}

/-- The paths of the manifest that the table does not expect. -/
def unexpected (manifest : Manifest) (table : Expectations) : List String :=
  manifest.allPaths.filter fun path => !table.contains path

theorem mem_unexpected_iff {path : String} :
    path ∈ unexpected manifest table ↔
      path ∈ manifest.files ∧ ¬ table.contains path = true := by
  rw [unexpected, List.mem_filter, Manifest.allPaths, Text.mem_ascending,
    Bool.not_eq_true', Bool.not_eq_true]

theorem completeness_eq_append :
    completeness manifest table =
      (table.paths.map Prod.fst).map (presence manifest.allPaths) ++
        (unexpected manifest table).map extra := by
  rw [completeness, List.map_map]
  rfl

theorem placed_presence {path : String} {isExpected : Prop}
    (expected : isExpected) :
    Placed isExpected (path ∈ manifest.files) path
      (presence manifest.allPaths path) := by
  have known : path ∈ manifest.allPaths ↔ path ∈ manifest.files :=
    Text.mem_ascending
  rw [presence]
  split
  next recorded => exact .both expected (known.mp recorded)
  next unrecorded => exact .missing expected (mt known.mpr unrecorded)

theorem forall₂_placed_completeness (manifest : Manifest)
    (table : Expectations) :
    List.Forall₂
      (fun path verdict =>
        Placed (table.contains path = true) (path ∈ manifest.files) path
          verdict)
      (table.paths.map Prod.fst ++ unexpected manifest table)
      (completeness manifest table) := by
  rw [completeness_eq_append]
  refine List.rel_append ?_ ?_
  · rw [List.forall₂_map_right_iff, List.forall₂_same]
    intro path member
    exact placed_presence (Keyed.contains_iff.mpr member)
  · rw [List.forall₂_map_right_iff, List.forall₂_same]
    intro path member
    rcases mem_unexpected_iff.mp member with ⟨recorded, notExpected⟩
    exact .extra notExpected recorded

/-! ## The order of the paths -/

theorem pairwise_paths (ordered : table.Ordered) :
    (table.paths.map Prod.fst).Pairwise (· < ·) :=
  List.pairwise_map.mpr ordered.paths

theorem pairwise_unexpected (manifest : Manifest) (table : Expectations) :
    (unexpected manifest table).Pairwise (· < ·) :=
  (Text.pairwise_ascending manifest.files).filter _

theorem nodup_paths_append (ordered : table.Ordered) :
    (table.paths.map Prod.fst ++ unexpected manifest table).Nodup := by
  refine (pairwise_paths ordered).nodup.append
    (pairwise_unexpected manifest table).nodup ?_
  intro path isExpected isUnexpected
  exact (mem_unexpected_iff.mp isUnexpected).2
    (Keyed.contains_iff.mpr isExpected)

/--
Completeness gives one verdict on each path that the table expects or a file
of the document gives, and on no other path.  Expected paths come first, each
part is in the order of the bytes, no path stands twice, and all verdicts are
matches exactly if the table expects the paths of the document.
-/
theorem completeness_compares_paths {document : String}
    (read : Manifest.read document = .ok manifest)
    (ordered : table.Ordered) :
    ∃ expected extra : List String,
      expected.Pairwise
        (fun left right => writeUtf8 left < writeUtf8 right) ∧
      extra.Pairwise (fun left right => writeUtf8 left < writeUtf8 right) ∧
      (expected ++ extra).Nodup ∧
      (∀ path, path ∈ expected ↔ table.contains path = true) ∧
      (∀ path, path ∈ extra ↔
        NamesFile document path ∧ ¬ table.contains path = true) ∧
      List.Forall₂
        (fun path verdict =>
          Placed (table.contains path = true) (NamesFile document path) path
            verdict)
        (expected ++ extra) (completeness manifest table) ∧
      ((completeness manifest table).all Verdict.isMatch = true ↔
        ∀ path, table.contains path = true ↔ NamesFile document path) := by
  refine ⟨table.paths.map Prod.fst, unexpected manifest table,
    (pairwise_paths ordered).imp Encoding.writeUtf8_lt_iff.mpr,
    (pairwise_unexpected manifest table).imp Encoding.writeUtf8_lt_iff.mpr,
    nodup_paths_append ordered, fun path => Keyed.contains_iff.symm,
    fun path => ?_, ?_, ?_⟩
  · rw [mem_unexpected_iff, Manifest.mem_files_iff read]
  · simpa only [Manifest.mem_files_iff read] using
      forall₂_placed_completeness manifest table
  · rw [all_completeness_iff ordered]
    simp only [Manifest.mem_files_iff read]
    exact forall_congr' fun path => iff_comm

/-! ## A file outside the groups -/

/-- A file lies in no group, and is named again in a group about another. -/
def looseFile : String :=
  "<l><file>b</file><hash><file> a</file><file>b</file></hash></l>"

/-- The manifest that the text is read as: one record, but three files. -/
def looseFileManifest : Manifest where
  records := [⟨"a", [], [⟨"file", "a"⟩, ⟨"file", "b"⟩]⟩]
  files := ["b", "a", "b"]
  creator := none

theorem read_looseFile : Manifest.read looseFile = .ok looseFileManifest := by
  decide +kernel

/-- Two paths that are expected, whatever their facts. -/
def twoPaths : Expectations :=
  .demandAll .empty [.path "c", .path "a"]

/-- One path is in both sets, one is missing, and one is extra only once. -/
theorem completeness_of_looseFile :
    Manifest.read looseFile = .ok looseFileManifest ∧ twoPaths.Ordered ∧
    (∃ expected extra : List String,
      (expected ++ extra).Nodup ∧
      (∀ path, path ∈ expected ↔ twoPaths.contains path = true) ∧
      (∀ path, path ∈ extra ↔
        NamesFile looseFile path ∧ ¬ twoPaths.contains path = true) ∧
      List.Forall₂
        (fun path verdict =>
          Placed (twoPaths.contains path = true) (NamesFile looseFile path)
            path verdict)
        (expected ++ extra) (completeness looseFileManifest twoPaths)) ∧
    completeness looseFileManifest twoPaths =
      [.matched .presence (some "a"),
        .mismatch .presence .missingPath (some "c") "present" "absent",
        .mismatch .presence .extraPath (some "b") "absent" "present"] := by
  have ordered : twoPaths.Ordered := Expectations.ordered_empty.demandAll _
  rcases completeness_compares_paths read_looseFile ordered with
    ⟨expected, extra, -, -, once, isExpected, isExtra, placed, -⟩
  exact ⟨read_looseFile, ordered,
    ⟨expected, extra, once, isExpected, isExtra, placed⟩, by decide⟩

end Check

end MediaHash
