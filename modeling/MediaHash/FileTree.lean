import MediaHash.Encoding.Utf8
import MediaHash.Fault
import MediaHash.Text.Split

/-!
# Files by path

A tree of files answers what stands at a path: a file with its bytes or one
that cannot be read, a directory, or nothing, with the reason why.  Paths are
walked part by part from the directory in which the tree stands; a part may
be one or two dots, and a slash at the end asks for a directory.  Outside the
tree there is nothing but the directories that lead to it.
-/

namespace MediaHash

/-- What stands at a path. -/
inductive Entry where
  | file (content : List UInt8)
  /-- A file that cannot be opened or read to its end. -/
  | unreadable (fault : AccessFault)
  | directory
deriving Repr

/-- What stands at each path, or why nothing can be reached there. -/
abbrev Files := String → Except AccessFault Entry

namespace AccessFault

/-- Nothing stands at the path. -/
def missing : AccessFault :=
  ⟨.notFound, "No such file or directory (os error 2)"⟩

/-- The path leads through a file. -/
def notADirectory : AccessFault :=
  ⟨.notADirectory, "Not a directory (os error 20)"⟩

/-- A directory has no content to read. -/
def isADirectory : AccessFault :=
  ⟨.isADirectory, "Is a directory (os error 21)"⟩

/-- The path or one of its parts is longer than paths may be. -/
def nameTooLong : AccessFault :=
  ⟨.invalidName, "File name too long (os error 36)"⟩

/-- The path holds a character that no path may hold. -/
def invalidPath : AccessFault :=
  ⟨.invalidInput, "file name contained an unexpected NUL byte"⟩

/-- The content is not UTF-8. -/
def invalidText : AccessFault :=
  ⟨.invalidData, "stream did not contain valid UTF-8"⟩

end AccessFault

/-- Files and directories under the parts of their paths. -/
structure FileTree where
  entries : List (List String × Entry)
deriving Repr

namespace FileTree

/-- The parts of a path that name something, in order. -/
def partsOf (path : String) : List String :=
  ((Text.pieces '/' path.toList).filter fun part => !part.isEmpty).map
    String.ofList

/-- The tree of the given files and directories. -/
def ofEntries (entries : List (String × Entry)) : FileTree :=
  ⟨entries.map fun (path, entry) =>
    ((partsOf path).filter fun part => part != ".", entry)⟩

/-- A place that a walk has come to. -/
inductive Place where
  /-- A place in the tree, by its parts, the last of them first. -/
  | inside (parts : List String)
  /-- A directory that leads to the tree. -/
  | above
deriving DecidableEq, Repr

/-- What stands at a place. -/
def entryAt? (tree : FileTree) : Place → Option Entry
  | .above | .inside [] => some .directory
  | .inside parts =>
      let place := parts.reverse
      match tree.entries.lookup place with
      | some entry => some entry
      | none =>
          if tree.entries.any fun entry => place.isPrefixOf entry.1 then
            some .directory
          else none

/-- The greatest number of bytes of one part of a path. -/
def partLimit : Nat := 255

/-- The number of bytes that a path must stay below. -/
def pathLimit : Nat := 4096

/-- The directory that holds a place. -/
def Place.outer : Place → Place
  | .inside (_ :: outer) => .inside outer
  | _ => .above

/-- The place of a name in a directory, if there can be one. -/
def Place.inner? (name : String) : Place → Option Place
  | .inside outer => some (.inside (name :: outer))
  | .above => none

/-- Walk along the parts of a path from a place. -/
def walk (tree : FileTree) (place : Place) :
    List String → Except AccessFault Place
  | [] => .ok place
  | part :: rest =>
      match tree.entryAt? place with
      | none => .error .missing
      | some (.file _) | some (.unreadable _) => .error .notADirectory
      | some .directory =>
          if part = "." then walk tree place rest
          else if part = ".." then walk tree place.outer rest
          else if partLimit < part.utf8ByteSize then .error .nameTooLong
          else match place.inner? part with
            | some inner => walk tree inner rest
            | none => .error .missing

/-- The place at which the walk along a path begins. -/
def start (path : String) : Place :=
  if path.toList.head? = some '/' then .above else .inside []

/-- What stands at a path. -/
def find (tree : FileTree) : Files := fun path =>
  if path.toList.contains '\x00' then .error .invalidPath
  else if path.isEmpty then .error .missing
  else if pathLimit ≤ path.utf8ByteSize then .error .nameTooLong
  else
    let wanted := partsOf path ++
      if path.toList.getLast? = some '/' then ["."] else []
    match walk tree (start path) wanted with
    | .error fault => .error fault
    | .ok place =>
        match tree.entryAt? place with
        | some entry => .ok entry
        | none => .error .missing

end FileTree

namespace Files

/-- The bytes of the file at a path. -/
def bytes (files : Files) (path : String) :
    Except AccessFault (List UInt8) :=
  match files path with
  | .ok (.file content) => .ok content
  | .ok (.unreadable fault) => .error fault
  | .ok .directory => .error .isADirectory
  | .error fault => .error fault

/-- The text of the file at a path. -/
def text (files : Files) (path : String) : Except AccessFault String := do
  let bytes ← files.bytes path
  match Encoding.readUtf8 bytes with
  | .ok text => .ok text
  | .error _ => .error .invalidText

/-- Whether anything stands at a path. -/
def holds (files : Files) (path : String) : Bool :=
  match files path with
  | .ok _ => true
  | .error _ => false

end Files

end MediaHash
