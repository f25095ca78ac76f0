import MediaHash.Expectation

/-!
# Criteria

The settings that decide how strictly a manifest or a run is judged.
-/

namespace MediaHash

/-- How the names of fields are matched with expected families. -/
inductive TagMatching where
  /-- Letter case does not count. -/
  | caseInsensitive
  | exact
deriving DecidableEq, Repr

/-- How strictly a scenario is judged. -/
structure Criteria where
  /-- Whether paths on one side only are reported. -/
  strictCompleteness : Bool
  /-- Whether the letter case of hash families is ignored. -/
  caseInsensitiveHashType : Bool
  /-- Numbers that the tool under test uses for some statuses, later first. -/
  exitCodes : List (ExitCode × Int)
deriving DecidableEq, Repr

namespace Criteria

/-- The criteria when nothing else is said. -/
def standard : Criteria :=
  ⟨true, true, []⟩

/-- Use a number for a status from now on. -/
def remap (criteria : Criteria) (status : ExitCode) (number : Int) :
    Criteria :=
  { criteria with exitCodes := (status, number) :: criteria.exitCodes }

/-- The number that the tool under test uses for a status. -/
def exitNumber (criteria : Criteria) (status : ExitCode) : Int :=
  (criteria.exitCodes.lookup status).getD status.number

/-- How names of fields are matched. -/
def matching (criteria : Criteria) : TagMatching :=
  if criteria.caseInsensitiveHashType then .caseInsensitive else .exact

/-- What a listing claims, its families spelled to suit the matching. -/
def expectations (criteria : Criteria) (listing : Listing) : Expectations :=
  match criteria.matching with
  | .caseInsensitive => .ofListing listing
  | .exact => .ofListingExactly listing

end Criteria

end MediaHash
