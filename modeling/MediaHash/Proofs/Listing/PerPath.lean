import MediaHash.Listing.Basic
import MediaHash.Proofs.Items.Grouping
import MediaHash.Proofs.Text.Letters

/-!
# Claims path by path

The paths of a listing, in the order of their first claims, part its claims,
and the families of the claims about one path, letter case aside, part these
once more.  No claim is lost or counted twice on the way, and the claims about
a path stay in their order.
-/

namespace MediaHash.Listing

/-- The family of a claim in small letters. -/
def smallFamily (claim : Claim) : String :=
  Text.lowerCase claim.family

/-- The families of the claims about a path, each once, in small letters. -/
def smallFamilies (listing : Listing) (path : String) : List String :=
  ((listing.claimsFor path).map smallFamily).eraseDups

variable {listing : Listing} {path family : String}

/-- The claims of a family are found among those about the path. -/
theorem hashesFor_eq_withKey (listing : Listing) (path family : String) :
    listing.hashesFor path family =
      withKey smallFamily (listing.claimsFor path)
        (Text.lowerCase family) := by
  rw [hashesFor, claimsFor, withKey, List.filter_filter]
  apply List.filter_congr
  intro claim member
  rw [Bool.and_comm]
  rfl

theorem isSmall_of_mem_smallFamilies
    (member : family ∈ listing.smallFamilies path) : Text.IsSmall family := by
  rcases List.mem_map.mp (List.mem_eraseDups.mp member) with ⟨claim, -, rfl⟩
  exact Text.isSmall_lowerCase claim.family

/-- The claims about a path are parted by the small forms of their families. -/
theorem parts_hashesFor (listing : Listing) (path : String) :
    Parts (listing.claimsFor path) (listing.smallFamilies path)
      (listing.hashesFor path) := by
  apply (parts_withKey smallFamily (listing.claimsFor path)).congr
  intro family member
  rw [hashesFor_eq_withKey,
    Text.lowerCase_of_isSmall (isSmall_of_mem_smallFamilies member)]

theorem mem_distinctPaths_iff :
    path ∈ listing.distinctPaths ↔ path ∈ listing.pathsInOrder := by
  rw [distinctPaths, Text.mem_ascending, pathsInOrder, List.mem_eraseDups]

/--
The paths in order are the distinct paths, each once, and stand in the order
of the first claims about them.  The claims about these paths, path after
path, are all claims, and those about one path keep their order.  So do the
claims of one family among those about a path, and each of the claims about
the path is in the group of exactly one family.
-/
theorem claims_part_by_path (listing : Listing) :
    FirstSeen (listing.claims.map Claim.path) listing.pathsInOrder ∧
    (∀ path, path ∈ listing.distinctPaths ↔ path ∈ listing.pathsInOrder) ∧
    Parts listing.claims listing.pathsInOrder listing.claimsFor ∧
    (∀ path,
      (listing.pathsInOrder.flatMap listing.claimsFor).filter
          (fun claim => claim.path == path) =
        listing.claims.filter fun claim => claim.path == path) ∧
    ∀ path, Parts (listing.claimsFor path) (listing.smallFamilies path)
      (listing.hashesFor path) := by
  refine ⟨firstSeen_eraseDups _, fun path => mem_distinctPaths_iff,
    parts_withKey Claim.path listing.claims, ?_, parts_hashesFor listing⟩
  intro path
  exact withKey_flatMap_eraseDups Claim.path listing.claims path

/-- Claims of two paths, one family of which is spelled in two ways. -/
example :
    let listing : Listing :=
      ⟨[⟨"MD5", "b", "00"⟩, ⟨"md5", "a", "01"⟩, ⟨"SHA1", "b", "02"⟩,
        ⟨"md5", "b", "03"⟩]⟩
    listing.pathsInOrder = ["b", "a"] ∧ listing.distinctPaths = ["a", "b"] ∧
      listing.smallFamilies "b" = ["md5", "sha1"] ∧
      listing.hashesFor "b" "md5" =
        [⟨"MD5", "b", "00"⟩, ⟨"md5", "b", "03"⟩] := by
  decide +kernel

end MediaHash.Listing
