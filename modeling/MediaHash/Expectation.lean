import MediaHash.Keyed
import MediaHash.Listing.Basic

/-!
# Expected facts

An expectation table holds, path by path, the facts that a manifest is
expected to record: a digest for each of some hash families, and a size.  A
later expectation of the same fact replaces an earlier one.
-/

namespace MediaHash

/-- The facts expected of one path. -/
structure ExpectedFacts where
  /-- The expected digests, by the name of their family. -/
  digests : Keyed String
  size : Option Nat
deriving DecidableEq, Repr

/-- No fact is expected. -/
def ExpectedFacts.none : ExpectedFacts :=
  ⟨[], Option.none⟩

/-- The facts expected of paths. -/
structure Expectations where
  paths : Keyed ExpectedFacts
deriving DecidableEq, Repr

namespace Expectations

/-- Nothing is expected. -/
def empty : Expectations :=
  ⟨[]⟩

/-- Change the facts expected of a path, which is expected from then on. -/
def change (table : Expectations) (path : String)
    (step : ExpectedFacts → ExpectedFacts) : Expectations :=
  ⟨table.paths.update path fun facts => step (facts.getD .none)⟩

/-- Expect a path, whatever its facts. -/
def expectPath (table : Expectations) (path : String) : Expectations :=
  table.change path id

/-- Expect a digest of a family. -/
def expectDigest (table : Expectations) (path family digest : String) :
    Expectations :=
  table.change path fun facts =>
    { facts with digests := facts.digests.insert family digest }

/-- Expect a digest of a known family. -/
def expectTyped (table : Expectations) (path : String) (family : HashType)
    (digest : String) : Expectations :=
  table.expectDigest path family.tag digest

/-- Expect a size. -/
def expectSize (table : Expectations) (path : String) (size : Nat) :
    Expectations :=
  table.change path fun facts => { facts with size := some size }

/-- The facts expected of a path. -/
def find? (table : Expectations) (path : String) : Option ExpectedFacts :=
  table.paths.find? path

/-- Whether a path is expected. -/
def contains (table : Expectations) (path : String) : Bool :=
  table.paths.contains path

/-- The name of a claim's family with letter case taken away. -/
def plainFamily (claim : Claim) : String :=
  match claim.type? with
  | some family => family.tag
  | none => Text.lowerCase claim.family

/-- Expect what a listing claims, letter case of families aside. -/
def ofListing (listing : Listing) : Expectations :=
  listing.claims.foldl
    (fun table claim =>
      table.expectDigest claim.path (plainFamily claim) claim.digest)
    empty

/-- Expect what a listing claims, families as they are spelled. -/
def ofListingExactly (listing : Listing) : Expectations :=
  listing.claims.foldl
    (fun table claim =>
      table.expectDigest claim.path claim.family claim.digest)
    empty

end Expectations

end MediaHash
