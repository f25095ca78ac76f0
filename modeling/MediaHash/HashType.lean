import MediaHash.Text.Blank
import MediaHash.Text.Letters

/-!
# Families of hashes

Each family has two spellings: the tag that names it as an element of a
manifest and in configurations, and the label in front of a claim of a
listing.  Reading a name accepts either, in any letter case and with blanks
around it.
-/

namespace MediaHash

/-- The hash families that manifests and listings may name. -/
inductive HashType where
  | md5
  | sha1
  /-- 32-bit xxHash, written as a decimal of ten digits. -/
  | xxhash
  /-- 64-bit xxHash, its bytes written from the lowest on. -/
  | xxhash64
  /-- 64-bit xxHash, its bytes written from the highest on. -/
  | xxhash64be
  /-- The family without a digest. -/
  | null
deriving DecidableEq, Repr

namespace HashType

/-- Every family, in the order in which families are listed. -/
def all : List HashType :=
  [md5, sha1, xxhash, xxhash64, xxhash64be, null]

theorem mem_all (family : HashType) : family ∈ all := by
  cases family <;> decide

/-- The name of the family as an element of a manifest. -/
def tag : HashType → String
  | md5 => "md5"
  | sha1 => "sha1"
  | xxhash => "xxhash"
  | xxhash64 => "xxhash64"
  | xxhash64be => "xxhash64be"
  | null => "null"

/-- The name of the family in front of a claim. -/
def label : HashType → String
  | md5 => "MD5"
  | sha1 => "SHA1"
  | xxhash => "XXHash"
  | xxhash64 => "XXHash64"
  | xxhash64be => "XXHash64BE"
  | null => "NULL"

/-- The number of characters of a written digest. -/
def digestLength : HashType → Nat
  | md5 => 32
  | sha1 => 40
  | xxhash => 10
  | xxhash64 => 16
  | xxhash64be => 16
  | null => 0

/-- Whether a written digest is a decimal number. -/
def isDecimal (family : HashType) : Bool :=
  family == xxhash

/-- The family with exactly the given tag. -/
def ofTag? (tag : String) : Option HashType :=
  all.find? fun family => family.tag == tag

/-- The family that a name stands for, in any letter case, blanks around it. -/
def ofName? (name : String) : Option HashType :=
  ofTag? (Text.lowerCase (Text.trim name))

@[simp]
theorem ofTag?_tag (family : HashType) : ofTag? family.tag = some family := by
  cases family <;> decide

end HashType

end MediaHash
