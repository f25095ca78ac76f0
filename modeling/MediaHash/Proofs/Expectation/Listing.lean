import MediaHash.Criteria
import MediaHash.Proofs.Digest.Families
import MediaHash.Proofs.Expectation.Demand
import MediaHash.Proofs.Listing.RoundTrip
import MediaHash.Proofs.Text.Letters

/-!
# What a listing makes a manifest expect

The claims of a listing become demands for digests, in their order.  The
family of a claim is first replaced by its plain spelling, which stands for
all names that are matched with it: its small form when letter case does not
count, and the name itself otherwise.  For a family of word characters this
is also the tag of the family, if it is a known one.

A table made from a listing therefore expects, for a path and a family, the
digest of the last claim about the path whose family is matched with it.
-/

namespace MediaHash

/-! ## Matching names -/

namespace TagMatching

/-- Two names are matched with each other. -/
def same : TagMatching → String → String → Bool
  | caseInsensitive, left, right => Text.sameLetters left right
  | exact, left, right => left == right

/-- The spelling that stands for all names that are matched with one. -/
def plain : TagMatching → String → String
  | caseInsensitive, name => Text.lowerCase name
  | exact, name => name

theorem same_iff (matching : TagMatching) (left right : String) :
    matching.same left right = true ↔
      matching.plain left = matching.plain right := by
  cases matching with
  | caseInsensitive => exact Text.sameLetters_iff left right
  | exact => exact beq_iff_eq

@[simp]
theorem plain_plain (matching : TagMatching) (name : String) :
    matching.plain (matching.plain name) = matching.plain name := by
  cases matching with
  | caseInsensitive => exact Text.lowerCase_lowerCase name
  | exact => rfl

@[simp]
theorem same_plain (matching : TagMatching) (left right : String) :
    matching.same left (matching.plain right) =
      matching.same left right := by
  rw [Bool.eq_iff_iff, same_iff, same_iff, plain_plain]

end TagMatching

/-! ## The demands of a listing -/

namespace Listing

open Expectations (Demand)

/-- The digest of the last claim about a path and a family. -/
def lastDigest? (listing : Listing) (matching : TagMatching)
    (path family : String) : Option String :=
  ((listing.claims.filter fun claim =>
    claim.path == path && matching.same claim.family family).getLast?).map
      Claim.digest

/-- What the claims of a listing demand, in their order. -/
def demands (listing : Listing) (matching : TagMatching) : List Demand :=
  listing.claims.map fun claim =>
    .digest claim.path (matching.plain claim.family) claim.digest

theorem exists_claim_of_demand {listing : Listing} {matching : TagMatching}
    {path family digest : String}
    (demanded : digest ∈ (listing.demands matching).filterMap
      (Demand.digestFor? path family)) :
    ∃ claim ∈ listing.claims, matching.plain claim.family = family := by
  rcases List.mem_filterMap.mp demanded with ⟨demand, member, stated⟩
  rcases List.mem_map.mp member with ⟨claim, isClaim, rfl⟩
  rw [Demand.digestFor?] at stated
  split at stated
  next about => exact ⟨claim, isClaim, about.2⟩
  next => cases stated

theorem digestsFor_demands (listing : Listing) (matching : TagMatching)
    (path family : String) :
    (listing.demands matching).filterMap
        (Demand.digestFor? path (matching.plain family)) =
      (listing.claims.filter fun claim => claim.path == path &&
        matching.same claim.family family).map Claim.digest := by
  rw [demands, List.filterMap_map, ← List.filterMap_eq_map,
    List.filterMap_filter]
  apply List.filterMap_congr
  intro claim member
  simp [Demand.digestFor?, TagMatching.same_iff]

theorem sizesFor_demands (listing : Listing) (matching : TagMatching)
    (path : String) :
    (listing.demands matching).filterMap (Demand.sizeFor? path) = [] := by
  rw [demands, List.filterMap_map, List.filterMap_eq_nil_iff]
  intro claim member
  rfl

end Listing

/-! ## The table of a listing -/

namespace Expectations

theorem plainFamily_eq_lowerCase {claim : Claim}
    (writable : claim.Writable) :
    plainFamily claim = Text.lowerCase claim.family := by
  have visible : ∀ letter ∈ claim.family.toList,
      Text.isBlank letter = false := by
    intro letter member
    exact Text.isBlank_eq_false_of_isWord (writable.family_word letter member)
  have trimmed : Text.trim claim.family = claim.family := by
    rw [Text.trim, Text.trimBlanks_of_visible visible, String.ofList_toList]
  rw [plainFamily, Claim.type?, HashType.ofName?, trimmed]
  cases found : HashType.ofTag? (Text.lowerCase claim.family) with
  | none => rfl
  | some family => exact HashType.ofTag?_eq_some_iff.mp found

theorem expectations_eq_ofDemands {listing : Listing}
    (writable : ∀ claim ∈ listing.claims, claim.Writable)
    (criteria : Criteria) :
    criteria.expectations listing =
      ofDemands (listing.demands criteria.matching) := by
  rw [Criteria.expectations, ofDemands, demandAll, Listing.demands,
    List.foldl_map]
  cases criteria.matching with
  | caseInsensitive =>
      apply List.foldl_ext
      intro table claim member
      rw [plainFamily_eq_lowerCase (writable claim member)]
      rfl
  | exact => rfl

section Views

variable {listing : Listing} {criteria : Criteria}
  (writable : ∀ claim ∈ listing.claims, claim.Writable)

include writable

theorem ordered_expectations : (criteria.expectations listing).Ordered := by
  rw [expectations_eq_ofDemands writable]
  exact ordered_ofDemands (listing.demands criteria.matching)

/-- The expected digest of a family is that of the last matching claim. -/
theorem digest?_expectations (path family : String) :
    (criteria.expectations listing).digest? path
        (criteria.matching.plain family) =
      listing.lastDigest? criteria.matching path family := by
  rw [expectations_eq_ofDemands writable, digest?_ofDemands,
    Listing.digestsFor_demands, List.getLast?_map, Listing.lastDigest?]

theorem exists_claim_of_digest? {path family digest : String}
    (expected : (criteria.expectations listing).digest? path family =
      some digest) :
    ∃ claim ∈ listing.claims,
      criteria.matching.plain claim.family = family := by
  rw [expectations_eq_ofDemands writable, digest?_ofDemands] at expected
  exact Listing.exists_claim_of_demand (List.mem_of_getLast? expected)

theorem size?_expectations (path : String) :
    (criteria.expectations listing).size? path = none := by
  rw [expectations_eq_ofDemands writable, size?_ofDemands,
    Listing.sizesFor_demands, List.getLast?_nil]

theorem contains_expectations (path : String) :
    (criteria.expectations listing).contains path = true ↔
      ∃ claim ∈ listing.claims, claim.path = path := by
  rw [expectations_eq_ofDemands writable, contains_ofDemands]
  simp [Listing.demands, Demand.subject]

end Views

end Expectations

end MediaHash
