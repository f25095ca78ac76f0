import MediaHash.Listing.Basic
import MediaHash.Proofs.Listing.Grammar
import MediaHash.Proofs.Text.Lines

/-!
# Writing a listing and reading it back

A claim can stand in a listing when its family is a word, its path has no
line feed and its digest is a run of hexadecimal digits.  Brackets, equals
signs and carriage returns in the path do no harm.

The main statement says that these are exactly the claims that survive being
written and read back, so that a listing that was read once never changes
again.
-/

namespace MediaHash

open Text

/-- The claim can be stated by a line. -/
structure Claim.Writable (claim : Claim) : Prop where
  family_nonempty : claim.family ≠ ""
  family_word : ∀ letter ∈ claim.family.toList, isWord letter = true
  path_oneLine : '\n' ∉ claim.path.toList
  digest_nonempty : claim.digest ≠ ""
  digest_hex : ∀ letter ∈ claim.digest.toList, isHexDigit letter = true

namespace Listing

/-- The layout in which a claim is written. -/
def Layout.ofClaim (claim : Claim) : Layout :=
  ⟨claim.family.toList, claim.path.toList, [], [' '], claim.digest.toList⟩

@[simp]
theorem Layout.line_ofClaim (claim : Claim) :
    (Layout.ofClaim claim).line = claim.text.toList := by
  simp [Layout.line, Layout.ofClaim, Claim.text]

@[simp]
theorem Layout.claim_ofClaim (claim : Claim) :
    (Layout.ofClaim claim).claim = claim := by
  simp [Layout.claim, Layout.ofClaim]

theorem Layout.wellFormed_ofClaim {claim : Claim}
    (writable : claim.Writable) : (Layout.ofClaim claim).WellFormed where
  family_nonempty := by
    simpa [Layout.ofClaim] using writable.family_nonempty
  family_word := writable.family_word
  path_oneLine := writable.path_oneLine
  before_blank := by simp [Layout.ofClaim]
  after_blank := by
    simp only [Layout.ofClaim, List.mem_singleton, forall_eq]
    decide
  digest_nonempty := by
    simpa [Layout.ofClaim] using writable.digest_nonempty
  digest_hex := writable.digest_hex

theorem Layout.writable_claim {layout : Layout}
    (wellFormed : layout.WellFormed) : layout.claim.Writable where
  family_nonempty := by
    simpa [Layout.claim] using wellFormed.family_nonempty
  family_word := by simpa [Layout.claim] using wellFormed.family_word
  path_oneLine := by simpa [Layout.claim] using wellFormed.path_oneLine
  digest_nonempty := by
    simpa [Layout.claim] using wellFormed.digest_nonempty
  digest_hex := by simpa [Layout.claim] using wellFormed.digest_hex

/-! ## One claim -/

theorem writable_of_readLine {line : String} {claim : Claim}
    (read : readLine line = some claim) : claim.Writable := by
  rcases readCharacters_eq_some_iff.mp read with
    ⟨layout, ⟨wellFormed, -⟩, rfl⟩
  exact Layout.writable_claim wellFormed

theorem getLast?_text_ne_return {claim : Claim}
    (writable : claim.Writable) :
    claim.text.toList.getLast? ≠ some '\r' := by
  intro final
  have nonempty : claim.digest.toList ≠ [] := by
    simpa using writable.digest_nonempty
  rw [Claim.text, String.toList_append,
    List.getLast?_append_of_ne_nil _ nonempty] at final
  exact absurd (writable.digest_hex '\r' (List.mem_of_getLast? final))
    (by decide)

theorem lineFeed_not_mem_text {claim : Claim}
    (writable : claim.Writable) : '\n' ∉ claim.text.toList := by
  have family : '\n' ∉ claim.family.toList := by
    intro member
    have visible :=
      isBlank_eq_false_of_isWord (writable.family_word '\n' member)
    cases visible
  have digest : '\n' ∉ claim.digest.toList := by
    intro member
    exact absurd (writable.digest_hex '\n' member) (by decide)
  simp [Claim.text, family, writable.path_oneLine, digest]

/-- A claim that can be written is read back from its line. -/
theorem readLine_text {claim : Claim} (writable : claim.Writable) :
    readLine claim.text = some claim := by
  refine readCharacters_eq_some_iff.mpr ⟨Layout.ofClaim claim, ⟨?_, ?_⟩, ?_⟩
  · exact Layout.wellFormed_ofClaim writable
  · rw [Layout.line_ofClaim, dropReturn,
      if_neg (getLast?_text_ne_return writable)]
  · exact Layout.claim_ofClaim claim

/-! ## The whole listing -/

theorem toList_text (listing : Listing) :
    listing.text.toList =
      (listing.claims.map fun claim => claim.text.toList).flatMap
        (· ++ ['\n']) := by
  simp [Listing.text, String.toList_join, List.flatMap_map]

/-- A listing of claims that can be written is read back as it is. -/
theorem read_text_of_writable {listing : Listing}
    (writable : ∀ claim ∈ listing.claims, claim.Writable) :
    read listing.text = listing := by
  have written :
      lines listing.text.toList =
        listing.claims.map fun claim => claim.text.toList := by
    rw [toList_text]
    apply lines_flatMap_lineFeed
    · intro line member
      rcases List.mem_map.mp member with ⟨claim, claimMember, rfl⟩
      exact lineFeed_not_mem_text (writable claim claimMember)
    · intro line member
      rcases List.mem_map.mp member with ⟨claim, claimMember, rfl⟩
      exact getLast?_text_ne_return (writable claim claimMember)
  have readBack : ∀ claim ∈ listing.claims,
      readLine (String.ofList claim.text.toList) = some claim := by
    intro claim member
    rw [String.ofList_toList]
    exact readLine_text (writable claim member)
  have claims : listing.claims.filterMap
      (fun claim => readLine (String.ofList claim.text.toList)) =
        listing.claims := by
    rw [List.filterMap_congr readBack, List.filterMap_some]
  rw [read, linesOf, written, List.map_map, List.filterMap_map]
  exact congrArg Listing.mk claims

theorem writable_of_mem_read {text : String} {claim : Claim}
    (member : claim ∈ (read text).claims) : claim.Writable := by
  rcases List.mem_filterMap.mp member with ⟨line, -, read⟩
  exact writable_of_readLine read

/--
Claims are read back as they were written exactly if each of them can be
stated by a line, and what was read once is read again as it is.
-/
theorem read_text_round_trip :
    (∀ claims : List Claim,
      (read (text ⟨claims⟩)).claims = claims ↔
        ∀ claim ∈ claims, claim.Writable) ∧
    ∀ written : String, read (read written).text = read written := by
  constructor
  · intro claims
    constructor
    · intro same claim member
      rw [← same] at member
      exact writable_of_mem_read member
    · intro writable
      rw [read_text_of_writable writable]
  · intro written
    exact read_text_of_writable fun claim => writable_of_mem_read

example : (read (text ⟨[⟨"MD5", "a)= 00\r", "ff"⟩]⟩)).claims =
    [⟨"MD5", "a)= 00\r", "ff"⟩] := by
  decide +kernel

end Listing

end MediaHash
