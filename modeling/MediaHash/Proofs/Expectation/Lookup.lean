import MediaHash.Proofs.Expectation.Listing

/-!
# Two ways to look up a claim

A listing answers questions about its claims by going through them, a table
made from it by looking under a path and a family.  Both give the same
answers: the path is expected if there are claims about it, and the digest of
a family is the one of the last claim that the listing finds.

The keys of the table are the small forms of the families, or the families as
they are spelled.
-/

namespace MediaHash

namespace Listing

variable {listing : Listing} {path family : String}

theorem claimsFor_ne_nil_iff :
    listing.claimsFor path ≠ [] ↔
      ∃ claim ∈ listing.claims, claim.path = path := by
  simp only [claimsFor, ne_eq, List.filter_eq_nil_iff, beq_iff_eq,
    not_forall, not_not, exists_prop]

theorem lastDigest?_exact :
    listing.lastDigest? .exact path family =
      (((listing.claimsFor path).filter fun claim =>
        claim.family == family).getLast?).map Claim.digest := by
  rw [lastDigest?, claimsFor, List.filter_filter]
  simp only [TagMatching.same, Bool.and_comm]

theorem isSome_lastDigest?_exact_iff :
    (listing.lastDigest? .exact path family).isSome = true ↔
      ∃ claim ∈ listing.claims,
        claim.path = path ∧ claim.family = family := by
  simp only [lastDigest?, TagMatching.same, Option.isSome_map,
    List.getLast?_isSome, ne_eq, List.filter_eq_nil_iff, Bool.and_eq_true,
    beq_iff_eq, not_forall, not_not, exists_prop]

end Listing

namespace Expectations

/-! ## Without letter case -/

section Tables

variable {listing : Listing} {path family : String} {facts : ExpectedFacts}
  (writable : ∀ claim ∈ listing.claims, claim.Writable)

/-- By the standard criteria letter case does not count. -/
theorem ofListing_eq_expectations (listing : Listing) :
    ofListing listing = Criteria.standard.expectations listing := rfl

/-- The standard criteria, except that letter case counts. -/
def exactCriteria : Criteria :=
  { Criteria.standard with caseInsensitiveHashType := false }

theorem ofListingExactly_eq_expectations (listing : Listing) :
    ofListingExactly listing = exactCriteria.expectations listing := rfl

include writable

theorem contains_iff_claimsFor_ne_nil (criteria : Criteria) :
    (criteria.expectations listing).contains path = true ↔
      listing.claimsFor path ≠ [] := by
  rw [contains_expectations writable, Listing.claimsFor_ne_nil_iff]

/-- The table and the listing find the same digest. -/
theorem digest?_ofListing :
    (ofListing listing).digest? path (Text.lowerCase family) =
      ((listing.hashesFor path family).getLast?).map Claim.digest := by
  rw [ofListing_eq_expectations]
  exact digest?_expectations writable path family

theorem isSmall_of_mem_ofListing
    (found : (ofListing listing).find? path = some facts)
    (member : family ∈ facts.digests.map Prod.fst) : Text.IsSmall family := by
  rw [mem_families_iff found, ofListing_eq_expectations,
    Option.isSome_iff_exists] at member
  rcases member with ⟨digest, expected⟩
  rcases exists_claim_of_digest? writable expected with ⟨claim, -, rfl⟩
  exact Text.isSmall_lowerCase claim.family

theorem size_ofListing
    (found : (ofListing listing).find? path = some facts) :
    facts.size = none := by
  rw [← facts_eq_of_find? found, ← size?, ofListing_eq_expectations]
  exact size?_expectations writable path

/-! ## With letter case -/

theorem digest?_ofListingExactly :
    (ofListingExactly listing).digest? path family =
      listing.lastDigest? .exact path family := by
  rw [ofListingExactly_eq_expectations]
  exact digest?_expectations writable path family

theorem mem_families_ofListingExactly
    (found : (ofListingExactly listing).find? path = some facts) :
    family ∈ facts.digests.map Prod.fst ↔
      ∃ claim ∈ listing.claims,
        claim.path = path ∧ claim.family = family := by
  rw [mem_families_iff found, digest?_ofListingExactly writable,
    Listing.isSome_lastDigest?_exact_iff]

end Tables

/-! ## The listing that was read -/

/--
What a table of a listing expects is what the listing finds.  Without letter
case, the digest under the small form of a name is the one of the last claim
of that name in any letter case, every key is such a small form, and no size
is expected.  With letter case, the digest under a name is the one of the last
claim of exactly that name, and the names of claims are the only keys.
-/
theorem lookups_agree (text : String) :
    (∀ path, (ofListing (.read text)).contains path = true ↔
      (Listing.read text).claimsFor path ≠ []) ∧
    (∀ path family,
      (ofListing (.read text)).digest? path (Text.lowerCase family) =
        (((Listing.read text).hashesFor path family).getLast?).map
          Claim.digest) ∧
    (∀ path facts, (ofListing (.read text)).find? path = some facts →
      (∀ family ∈ facts.digests.map Prod.fst, Text.IsSmall family) ∧
        facts.size = none) ∧
    (∀ path, (ofListingExactly (.read text)).contains path = true ↔
      (Listing.read text).claimsFor path ≠ []) ∧
    (∀ path family,
      (ofListingExactly (.read text)).digest? path family =
        ((((Listing.read text).claimsFor path).filter fun claim =>
          claim.family == family).getLast?).map Claim.digest) ∧
    ∀ path facts, (ofListingExactly (.read text)).find? path = some facts →
      ∀ family, family ∈ facts.digests.map Prod.fst ↔
        ∃ claim ∈ (Listing.read text).claims,
          claim.path = path ∧ claim.family = family := by
  have writable : ∀ claim ∈ (Listing.read text).claims, claim.Writable :=
    fun claim => Listing.writable_of_mem_read
  refine ⟨fun path => contains_iff_claimsFor_ne_nil writable .standard,
    fun path family => digest?_ofListing writable, ?_,
    fun path => contains_iff_claimsFor_ne_nil writable exactCriteria, ?_, ?_⟩
  · intro path facts found
    exact ⟨fun family => isSmall_of_mem_ofListing writable found,
      size_ofListing writable found⟩
  · intro path family
    rw [digest?_ofListingExactly writable, Listing.lastDigest?_exact]
  · intro path facts found family
    exact mem_families_ofListingExactly writable found

/-- Two spellings are one key or two, and the later claim wins. -/
example :
    ofListing (.read "MD5(a)= 00\nmd5(a)= ff\n") =
        ⟨[("a", ⟨[("md5", "ff")], none⟩)]⟩ ∧
      ofListingExactly (.read "MD5(a)= 00\nmd5(a)= ff\n") =
        ⟨[("a", ⟨[("MD5", "00"), ("md5", "ff")], none⟩)]⟩ := by
  decide +kernel

end Expectations

end MediaHash
