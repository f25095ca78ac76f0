import MediaHash.Encoding.Marked
import MediaHash.Fault
import MediaHash.Manifest.Record
import MediaHash.Text.Ascending
import MediaHash.Text.Decimal
import MediaHash.Xml.Node

/-!
# Manifests

A manifest is a document that lists files with their sizes and digests.
Every element named `hash` that holds an element named `file` is a record,
however deep it lies.  Every element named `file` names a path that the
manifest knows, also outside a record.  The last element named
`creatorinfo` says who wrote the manifest.
-/

namespace MediaHash

/-- Who wrote a manifest, with what and when. -/
structure Creator where
  name : Option String
  username : Option String
  hostname : Option String
  tool : Option String
  startdate : Option String
  finishdate : Option String
deriving DecidableEq, Repr

/-- What a manifest says. -/
structure Manifest where
  records : List Manifest.Record
  /-- The path of every element named `file`, in document order. -/
  files : List String
  creator : Option Creator
deriving DecidableEq, Repr

namespace Manifest

open Xml (Node)

/-! ## Reading the tree -/

/-- The text in the nodes, without blanks at its ends. -/
def trimmedText (content : List Node) : String :=
  String.ofList (Text.trimBlanks (Node.innerTextAll content))

/-- The elements directly among the nodes, with their trimmed texts. -/
def fieldsOf (content : List Node) : List Field :=
  (content.filterMap Node.element?).map fun (name, inner) =>
    ⟨name, trimmedText inner⟩

/-- The greatest size that a record may state. -/
def largestSize : Nat := UInt64.size - 1

/-- Read the sizes among the fields of a group about a path. -/
def readSizes (path : String) :
    List Field → Except ManifestFault (List Nat)
  | [] => .ok []
  | field :: rest =>
      if field.name = "size" then
        match Text.readUnsigned largestSize field.text.toList with
        | some size => (size :: ·) <$> readSizes path rest
        | none => .error (.invalidSize path field.text)
      else readSizes path rest

/-- The record of a group, if the group names a file. -/
def readRecord (content : List Node) :
    Except ManifestFault (Option Record) :=
  let fields := fieldsOf content
  match fields.find? fun field => field.name == "file" with
  | none => .ok none
  | some file => do
      let sizes ← readSizes file.text fields
      .ok (some ⟨file.text, sizes, fields⟩)

/-- The records among the elements of a tree, up to the first fault. -/
def readRecords : List (String × List Node) →
    Except ManifestFault (List Record)
  | [] => .ok []
  | (name, content) :: rest => do
      if name = "hash" then
        let record ← readRecord content
        let records ← readRecords rest
        .ok (record.toList ++ records)
      else readRecords rest

/-- The text of the last field with a name. -/
def lastOf (fields : List Field) (name : String) : Option String :=
  ((fields.filter fun field => field.name == name).getLast?).map Field.text

/-- Who wrote the manifest, by the fields of one element. -/
def readCreator (content : List Node) : Creator :=
  let fields := fieldsOf content
  { name := lastOf fields "name"
    username := lastOf fields "username"
    hostname := lastOf fields "hostname"
    tool := lastOf fields "tool"
    startdate := lastOf fields "startdate"
    finishdate := lastOf fields "finishdate" }

/-- The contents of the elements with a name. -/
def contentsOf (elements : List (String × List Node)) (name : String) :
    List (List Node) :=
  (elements.filter fun element => element.1 == name).map Prod.snd

/-- What the tree of a document says. -/
def ofTree (root : Node) : Except ManifestFault Manifest := do
  let elements := root.elements
  let records ← readRecords elements
  .ok
    { records
      files := (contentsOf elements "file").map trimmedText
      creator := (contentsOf elements "creatorinfo").getLast?.map readCreator }

/-- Read a manifest from its text. -/
def read (text : String) : Except ManifestFault Manifest :=
  match Xml.read text with
  | .ok root => ofTree root
  | .error fault => .error (.malformed fault.message)

/-- Read a manifest from bytes marked with their encoding. -/
def ofBytes (bytes : List UInt8) : Except ManifestFault Manifest :=
  match Encoding.readMarked bytes with
  | .ok text => read text
  | .error fault => .error (.malformed fault.message)

/-! ## Questions about a path -/

/-- The records about a path, in document order. -/
def recordsFor (manifest : Manifest) (path : String) : List Record :=
  manifest.records.filter fun record => record.path == path

/-- Every text that a field gives for a path, letter case of names aside. -/
def digestsFor (manifest : Manifest) (path name : String) : List String :=
  (manifest.recordsFor path).flatMap fun record => record.valuesOf name

/-- Every text that a field with exactly this name gives for a path. -/
def digestsForExactly (manifest : Manifest) (path name : String) :
    List String :=
  (manifest.recordsFor path).flatMap fun record =>
    record.valuesOfExactly name

/-- Every size stated for a path. -/
def sizesFor (manifest : Manifest) (path : String) : List Nat :=
  (manifest.recordsFor path).flatMap Record.sizes

/-- The last text that a field gives for a path. -/
def digestFor? (manifest : Manifest) (path name : String) : Option String :=
  (manifest.digestsFor path name).getLast?

/-- The last size stated for a path. -/
def sizeFor? (manifest : Manifest) (path : String) : Option Nat :=
  (manifest.sizesFor path).getLast?

/-- How many fields with a name there are for a path. -/
def fieldCount (manifest : Manifest) (path name : String) : Nat :=
  (manifest.digestsFor path name).length

/-- Every path that the manifest knows, once each and ascending. -/
def allPaths (manifest : Manifest) : List String :=
  Text.ascending manifest.files

/-- There is no record. -/
def isEmpty (manifest : Manifest) : Bool :=
  manifest.records.isEmpty

end Manifest

end MediaHash
