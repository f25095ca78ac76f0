import MediaHash.Fault
import MediaHash.Listing.Line
import MediaHash.Text.Ascending

/-!
# Listings of claims

A listing is the text that a hashing tool prints, one claim to a line.  Lines
that state no claim are skipped, so that captured terminal output can be read
as it is.  The claims keep the order of their lines.
-/

namespace MediaHash

/-- The claims of a listing, in order. -/
structure Listing where
  claims : List Claim
deriving DecidableEq, Repr

namespace Listing

/-- Read a listing; lines that state no claim are skipped. -/
def read (text : String) : Listing :=
  ⟨(Text.linesOf text).filterMap readLine⟩

/-- Write a listing, one claim to a line. -/
def text (listing : Listing) : String :=
  String.join (listing.claims.map fun claim => claim.text ++ "\n")

/-- The claims about a path, in order. -/
def claimsFor (listing : Listing) (path : String) : List Claim :=
  listing.claims.filter fun claim => claim.path == path

/-- The claims about a path of one family, letter case aside, in order. -/
def hashesFor (listing : Listing) (path family : String) : List Claim :=
  listing.claims.filter fun claim =>
    claim.path == path && claim.isOf family

/-- Every path once, in the order of its first claim. -/
def pathsInOrder (listing : Listing) : List String :=
  (listing.claims.map Claim.path).eraseDups

/-- Every path once, in ascending order. -/
def distinctPaths (listing : Listing) : List String :=
  Text.ascending (listing.claims.map Claim.path)

end Listing

end MediaHash
