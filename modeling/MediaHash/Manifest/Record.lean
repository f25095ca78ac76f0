import MediaHash.HashType

/-!
# Records of a manifest

A record is what one group of a manifest says about one path: named fields
with their texts, in document order.  A group may state a size or a digest
more than once, and several groups may speak about the same path, so a
question about a record is answered by a list.
-/

namespace MediaHash.Manifest

/-- A named text of a group. -/
structure Field where
  name : String
  text : String
deriving DecidableEq, Repr

/-- What one group says about a path. -/
structure Record where
  path : String
  /-- The sizes that the group states, in order. -/
  sizes : List Nat
  /-- All fields of the group, those for the path and the sizes included. -/
  fields : List Field
deriving DecidableEq, Repr

namespace Record

/-- The last size that the group states. -/
def size? (record : Record) : Option Nat :=
  record.sizes.getLast?

/-- The texts of the fields with a name, letter case aside. -/
def valuesOf (record : Record) (name : String) : List String :=
  (record.fields.filter fun field =>
    Text.sameLetters field.name name).map Field.text

/-- The texts of the fields with exactly the given name. -/
def valuesOfExactly (record : Record) (name : String) : List String :=
  (record.fields.filter fun field => field.name == name).map Field.text

/-- The texts of the fields whose name stands for a hash family. -/
def digestsOf (record : Record) (family : HashType) : List String :=
  (record.fields.filter fun field =>
    HashType.ofName? field.name == some family).map Field.text

/-- The families of which the group states a digest, with the digests. -/
def digests (record : Record) : List (HashType × List String) :=
  (HashType.all.map fun family => (family, record.digestsOf family)).filter
    fun entry => !entry.2.isEmpty

end Record

end MediaHash.Manifest
