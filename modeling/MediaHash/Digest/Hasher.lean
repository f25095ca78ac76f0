import MediaHash.Digest.Md5
import MediaHash.Digest.Sha1
import MediaHash.Digest.XxHash
import MediaHash.FileTree
import MediaHash.Listing.Basic
import MediaHash.Text.Sixteen

/-!
# Reference digests

A hasher computes the digests of some hash families in one pass and writes
them as the tool under test does.  A file is read into a buffer, as many
bytes at a time as a read gives.  For several files the hasher gives one
listing, in the order of the files and, for each file, of the families.
-/

namespace MediaHash

namespace Digest

/-- A byte in two digits of base sixteen. -/
def hexByte (byte : UInt8) : List Char :=
  [Text.hexDigit (byte.toNat / 16), Text.hexDigit (byte.toNat % 16)]

/-- Bytes in base sixteen. -/
def hex (bytes : List UInt8) : List Char :=
  bytes.flatMap hexByte

/-- The eight bytes of a double word, the lowest first. -/
def bytesOf64 (word : UInt64) : List UInt8 :=
  bytes32 word.toUInt32 ++ bytes32 (word >>> 32).toUInt32

/-- The running state of one digest. -/
inductive State where
  | md5 (state : Md5.State)
  | sha1 (state : Sha1.State)
  | xxhash (state : XxHash32.State)
  | xxhash64 (state : XxHash64.State)
  | xxhash64be (state : XxHash64.State)

namespace State

/-- The state of a family before any byte; the family without digest has none. -/
def start? : HashType → Option State
  | .md5 => some (md5 Md5.start)
  | .sha1 => some (sha1 Sha1.start)
  | .xxhash => some (xxhash XxHash32.start)
  | .xxhash64 => some (xxhash64 XxHash64.start)
  | .xxhash64be => some (xxhash64be XxHash64.start)
  | .null => none

/-- Take further bytes. -/
def update (state : State) (bytes : List UInt8) : State :=
  match state with
  | md5 state => md5 (Md5.update state bytes)
  | sha1 state => sha1 (Sha1.update state bytes)
  | xxhash state => xxhash (XxHash32.update state bytes)
  | xxhash64 state => xxhash64 (XxHash64.update state bytes)
  | xxhash64be state => xxhash64be (XxHash64.update state bytes)

/-- The digest as it is written. -/
def finish : State → List Char
  | md5 state => hex (Md5.finish state)
  | sha1 state => hex (Sha1.finish state)
  | xxhash state => Text.paddedNumeral 10 (XxHash32.finish state).toNat
  | xxhash64 state => hex (bytesOf64 (XxHash64.finish state))
  | xxhash64be state => hex (bytesOf64 (XxHash64.finish state)).reverse

theorem update_append (state : State) (first second : List UInt8) :
    state.update (first ++ second) = (state.update first).update second := by
  cases state <;>
    simp [update, Md5.update, Sha1.update, XxHash32.update, XxHash64.update,
      Blocks.absorb_append]

end State

end Digest

open Digest

/-- The written digest of bytes for one family. -/
def HashType.digest (family : HashType) (bytes : List UInt8) :
    Except HashingFault String :=
  match State.start? family with
  | some state => .ok (String.ofList (state.update bytes).finish)
  | none => .error (.unsupportedType family.tag)

/-- Computes the digests of some families. -/
structure Hasher where
  /-- The families, each once. -/
  types : List HashType
  /-- How many files may be read at the same time. -/
  maxConcurrency : Nat
deriving DecidableEq, Repr

namespace Hasher

/-- How many files are read at the same time when nothing else is said. -/
def defaultConcurrency : Nat := 4

/-- The hasher when nothing else is said. -/
def standard : Hasher :=
  ⟨[.md5], defaultConcurrency⟩

/-- A hasher for families, none of which may be the one without digest. -/
def ofTypes (types : List HashType) : Except HashingFault Hasher :=
  if .null ∈ types then .error (.unsupportedType HashType.null.tag)
  else .ok ⟨types.eraseDups, defaultConcurrency⟩

/-- Read no more files at the same time than the limit, but one at least. -/
def withMaxConcurrency (hasher : Hasher) (limit : Nat) : Hasher :=
  { hasher with maxConcurrency := max limit 1 }

/-- The states of all families before any byte. -/
def states (hasher : Hasher) : List (HashType × State) :=
  hasher.types.filterMap fun family =>
    (State.start? family).map fun state => (family, state)

/-- Take bytes into all states. -/
def updateAll (states : List (HashType × State)) (bytes : List UInt8) :
    List (HashType × State) :=
  states.map fun (family, state) => (family, state.update bytes)

/-- The digests of all states. -/
def finishAll (states : List (HashType × State)) :
    List (HashType × String) :=
  states.map fun (family, state) => (family, String.ofList state.finish)

/-- The digests of bytes, family by family. -/
def hashBytes (hasher : Hasher) (bytes : List UInt8) :
    List (HashType × String) :=
  finishAll (updateAll hasher.states bytes)

/-! ## Files -/

/-- How many bytes of a file are read at once. -/
def chunkSize : Nat := 65536

/-- The bytes of a read stand in front of what a buffer still holds. -/
def fill (buffer bytes : List UInt8) : List UInt8 :=
  bytes ++ buffer.drop bytes.length

/--
Read into a buffer until a read gives nothing, and take what each read gave
into all states.  Of the buffer only the bytes of the last read count.
-/
def takeReads (buffer : List UInt8) (states : List (HashType × State)) :
    List (List UInt8) → List (HashType × State)
  | [] => states
  | bytes :: later =>
      if bytes = [] then states
      else
        let filled := fill buffer bytes
        takeReads filled (updateAll states (filled.take bytes.length)) later

/-- The digests of a content that comes in reads, family by family. -/
def hashReads (hasher : Hasher) (reads : List (List UInt8)) :
    List (HashType × String) :=
  finishAll (takeReads (List.replicate chunkSize 0) hasher.states reads)

/-- A content cut into chunks; the fuel bounds their number. -/
def chunksFrom : Nat → List UInt8 → List (List UInt8)
  | 0, _ => []
  | _, [] => []
  | fuel + 1, bytes =>
      bytes.take chunkSize :: chunksFrom fuel (bytes.drop chunkSize)

/-- A content cut into chunks, the last of which may be shorter. -/
def chunks (bytes : List UInt8) : List (List UInt8) :=
  chunksFrom bytes.length bytes

/-- Reads of a content that fill the buffer as long as they can. -/
def fullReads (bytes : List UInt8) : List (List UInt8) :=
  chunks bytes ++ [[]]

/-- The digests of the file at a path, whose content comes in given reads. -/
def hashFileBy (reads : List UInt8 → List (List UInt8)) (hasher : Hasher)
    (files : Files) (path : String) :
    Except HashingFault (List (HashType × String)) :=
  match files path with
  | .error _ => .error (.fileNotFound path)
  | .ok .directory => .error (.notAFile path)
  | .ok (.unreadable fault) => .error (.readFailed path fault.detail)
  | .ok (.file content) => .ok (hasher.hashReads (reads content))

/-- The digests of the file at a path, family by family. -/
def hashFile (hasher : Hasher) (files : Files) (path : String) :
    Except HashingFault (List (HashType × String)) :=
  hasher.hashFileBy fullReads files path

/-- The claims about the file at a path. -/
def claimsOf (path : String) (digests : List (HashType × String)) :
    List Claim :=
  digests.map fun (family, digest) => .ofType family path digest

/-- A path that is to be read, with its place among all paths. -/
structure Task where
  index : Nat
  path : String
deriving DecidableEq, Repr

/-- What reading one path gave. -/
structure Outcome where
  task : Task
  digests : Except HashingFault (List (HashType × String))

/-- Read the path of a task. -/
def outcome (hasher : Hasher) (files : Files) (task : Task) : Outcome :=
  ⟨task, hasher.hashFile files task.path⟩

/-- The tasks of paths, in order. -/
def tasks (paths : List String) : List Task :=
  paths.zipIdx.map fun (path, index) => ⟨index, path⟩

/-- The claims of outcomes in order, or the first fault among them. -/
def claimsInOrder : List Outcome → Except HashingFault (List Claim)
  | [] => .ok []
  | outcome :: rest => do
      let digests ← outcome.digests
      let claims ← claimsInOrder rest
      .ok (claimsOf outcome.task.path digests ++ claims)

/--
The listing of outcomes that came in any order: their claims stand in the
order of the tasks, and a fault of an earlier task comes before one of a
later task.
-/
def collect (outcomes : List Outcome) : Except HashingFault Listing := do
  let claims ← claimsInOrder (outcomes.mergeSort fun left right =>
    left.task.index ≤ right.task.index)
  .ok ⟨claims⟩

/-- The listing of several files, or the fault of the first that has one. -/
def hashFiles (hasher : Hasher) (files : Files) (paths : List String) :
    Except HashingFault Listing :=
  collect ((tasks paths).map (hasher.outcome files))

end Hasher

end MediaHash
