import Mathlib.Data.Multiset.Defs
import MediaHash.Proofs.Items.Steps
import MediaHash.Proofs.Manifest.Reading

/-!
# Paths of records among the paths of a document

A record has the path of the first file directly in its group, while the
manifest knows the path of every file in the document.  Each group can be
given a file of its own, namely that first one, since no file lies directly
in two elements.  So the paths of the records are among the paths that the
manifest knows, each at least as often.
-/

namespace MediaHash

/-- Some element named `file`, however deep it lies, gives the path. -/
def NamesFile (text path : String) : Prop :=
  ∃ root, Xml.read text = .ok root ∧
    ∃ content, ("file", content) ∈ root.elements ∧
      Manifest.trimmedText content = path

namespace Manifest

open Xml (Node)

/-! ## What reading gives -/

theorem exists_tree_of_read {document : String} {manifest : Manifest}
    (read : Manifest.read document = .ok manifest) :
    ∃ root, Xml.read document = .ok root ∧ ofTree root = .ok manifest := by
  rw [Manifest.read] at read
  cases parsed : Xml.read document with
  | error fault =>
      rw [parsed] at read
      cases read
  | ok root =>
      rw [parsed] at read
      exact ⟨root, rfl, read⟩

section Tree

variable {root : Node} {manifest : Manifest}
  (read : ofTree root = .ok manifest)

include read

theorem readRecords_of_ofTree :
    readRecords root.elements = .ok manifest.records := by
  rcases bind_eq_ok_iff.mp read with ⟨records, found, same⟩
  cases same
  exact found

theorem files_of_ofTree :
    manifest.files = (contentsOf root.elements "file").map trimmedText := by
  have records := readRecords_of_ofTree read
  rw [ofTree, records] at read
  exact (congrArg Manifest.files (Except.ok.inj read)).symm

end Tree

theorem mem_files_iff {text : String} {manifest : Manifest}
    (read : Manifest.read text = .ok manifest) (path : String) :
    path ∈ manifest.files ↔ NamesFile text path := by
  rcases exists_tree_of_read read with ⟨root, parsed, found⟩
  rw [files_of_ofTree found]
  simp [contentsOf, NamesFile, parsed]

/-! ## Paths of groups and of files -/

/-- The paths of the elements named `file`. -/
def filePaths (elements : List (String × List Node)) : List String :=
  (contentsOf elements "file").map trimmedText

/-- The paths of the elements that are groups. -/
def groupPaths (elements : List (String × List Node)) : List String :=
  (elements.filterMap groupOf?).map Group.path

theorem filePaths_append (left right : List (String × List Node)) :
    filePaths (left ++ right) = filePaths left ++ filePaths right := by
  simp [filePaths, contentsOf]

theorem groupPaths_append (left right : List (String × List Node)) :
    groupPaths (left ++ right) = groupPaths left ++ groupPaths right := by
  simp [groupPaths]

/-- The path that a node gives if it is a file. -/
def ownPath? : Node → Option String
  | .text _ => none
  | .element name content =>
      if name = "file" then some (trimmedText content) else none

/-- The path of the first file directly among the nodes. -/
def firstPath? (content : List Node) : Option String :=
  ((fieldsOf content).find? fun field => field.name == "file").map Field.text

theorem firstPath?_cons (node : Node) (rest : List Node) :
    firstPath? (node :: rest) = (ownPath? node).or (firstPath? rest) := by
  cases node with
  | text written => rfl
  | element name content =>
      by_cases isFile : name = "file"
      · subst isFile
        rfl
      · simp [firstPath?, ownPath?, fieldsOf, Node.element?, isFile]

theorem groupPaths_cons (name : String) (content : List Node)
    (rest : List (String × List Node)) :
    groupPaths ((name, content) :: rest) =
      (if name = "hash" then firstPath? content else none).toList ++
        groupPaths rest := by
  rw [groupPaths, groupPaths, firstPath?]
  by_cases isHash : name = "hash"
  · rw [if_pos isHash]
    cases found : (fieldsOf content).find? fun field => field.name == "file"
    with
    | none =>
        rw [List.filterMap_cons_none (by simp [groupOf?, found])]
        rfl
    | some file =>
        rw [List.filterMap_cons_some
          (b := ⟨file.text, fieldsOf content⟩)
          (by simp [groupOf?, isHash, found])]
        rfl
  · rw [if_neg isHash, List.filterMap_cons_none (by simp [groupOf?, isHash])]
    rfl

theorem filePaths_cons (name : String) (content : List Node)
    (rest : List (String × List Node)) :
    filePaths ((name, content) :: rest) =
      (ownPath? (.element name content)).toList ++ filePaths rest := by
  by_cases isFile : name = "file"
  · simp [filePaths, contentsOf, ownPath?, isFile]
  · simp [filePaths, contentsOf, ownPath?, isFile]

/-! ## A file for every group -/

mutual

/-- A tree that is a file has one path left for a group around it. -/
theorem count_groupPaths_le (path : String) : ∀ node : Node,
    (ownPath? node).toList.count path +
        (groupPaths node.elements).count path ≤
      (filePaths node.elements).count path
  | .text written => Nat.le_refl _
  | .element name content => by
      have inside := count_groupPathsAll_le path content
      have ofGroup :
          (if name = "hash" then firstPath? content else none).toList.count
              path ≤ (firstPath? content).toList.count path := by
        split
        · exact Nat.le_refl _
        · exact Nat.zero_le _
      rw [Node.elements, groupPaths_cons, filePaths_cons, List.count_append,
        List.count_append]
      omega

/-- Nodes have the path of their first file left for a group around them. -/
theorem count_groupPathsAll_le (path : String) : ∀ content : List Node,
    (firstPath? content).toList.count path +
        (groupPaths (Node.elementsAll content)).count path ≤
      (filePaths (Node.elementsAll content)).count path
  | [] => Nat.le_refl _
  | node :: rest => by
      have here := count_groupPaths_le path node
      have later := count_groupPathsAll_le path rest
      rw [firstPath?_cons, Node.elementsAll, groupPaths_append,
        filePaths_append, List.count_append, List.count_append]
      cases own : ownPath? node with
      | none =>
          rw [Option.none_or]
          omega
      | some ownPath =>
          rw [own] at here
          rw [Option.some_or]
          omega

end

theorem map_path_records {root : Node} {manifest : Manifest}
    (read : ofTree root = .ok manifest) :
    manifest.records.map Record.path = groupPaths root.elements := by
  have said := readRecords_classifies root.elements
  rw [readRecords_of_ofTree read] at said
  have same : List.Forall₂ Eq (groupPaths root.elements)
      (manifest.records.map Record.path) := by
    rw [groupPaths, List.forall₂_map_left_iff, List.forall₂_map_right_iff]
    exact said.imp fun {group record} stated => stated.path.symm
  rw [List.forall₂_eq_eq_eq] at same
  exact same.symm

/-- The paths of records are among the files, each at least as often. -/
theorem paths_le_files {document : String} {manifest : Manifest}
    (read : Manifest.read document = .ok manifest) :
    (↑(manifest.records.map Record.path) : Multiset String) ≤
      ↑manifest.files := by
  rcases exists_tree_of_read read with ⟨root, -, found⟩
  rw [Multiset.coe_le, List.subperm_iff_count, map_path_records found,
    files_of_ofTree found]
  intro path
  have counted := count_groupPaths_le path root
  exact (Nat.le_add_left _ _).trans counted

end Manifest

end MediaHash
