import MediaHash.HashType

/-!
# Claims

A claim says that a file has a digest.  The family is kept as it was
spelled, and the digest is a text that is never read as a number.
-/

namespace MediaHash

/-- One claim that a file has a digest of some family. -/
structure Claim where
  /-- The family as it is spelled. -/
  family : String
  path : String
  digest : String
deriving DecidableEq, Repr

namespace Claim

/-- A claim about a known family, spelled with its label. -/
def ofType (family : HashType) (path digest : String) : Claim :=
  ⟨family.label, path, digest⟩

/-- The known family that the spelling names. -/
def type? (claim : Claim) : Option HashType :=
  HashType.ofName? claim.family

/-- The claim's family is the given one, letter case aside. -/
def isOf (claim : Claim) (family : String) : Bool :=
  Text.sameLetters claim.family family

/-- The line that states the claim. -/
def text (claim : Claim) : String :=
  claim.family ++ "(" ++ claim.path ++ ")= " ++ claim.digest

end Claim

end MediaHash
