import MediaHash.Claim
import MediaHash.Json.Value
import MediaHash.Verdict

/-!
# Verdicts and claims as JSON

The members of an object stand in ascending order of their keys.
-/

namespace MediaHash

/-- The name of the kind of a fact. -/
def Fact.kind : Fact → String
  | .hash _ => "hash"
  | .size => "size"
  | .presence => "presence"
  | .lineCount => "line_count"
  | .line _ => "line"
  | .tagCount _ => "tag_count"
  | .exitCode => "exit_code"

/-- The family of a fact about a digest, as a member. -/
def Fact.familyMember : Fact → List (String × Json)
  | .hash family => [("hashtype", .string family)]
  | _ => []

/-- The index of a fact about a line, as a member. -/
def Fact.indexMember : Fact → List (String × Json)
  | .line index => [("index", .nat index)]
  | _ => []

/-- The tag of a fact about a count, as a member. -/
def Fact.tagMember : Fact → List (String × Json)
  | .tagCount tag => [("tag", .string tag)]
  | _ => []

/-- The verdict as an object. -/
def Verdict.toJson : Verdict → Json
  | .matched fact path =>
      .object (("fact", .string fact.kind) :: fact.familyMember ++
        fact.indexMember ++ [("path", .ofString? path)] ++ fact.tagMember ++
        [("verdict", .string "match")])
  | .mismatch fact kind path expected actual =>
      .object (("actual", .string actual) :: ("expected", .string expected) ::
        ("fact", .string fact.kind) :: fact.familyMember ++
        fact.indexMember ++ [("kind", .string kind.name),
        ("path", .ofString? path)] ++ fact.tagMember ++
        [("verdict", .string "mismatch")])

/-- The claim as an object. -/
def Claim.toJson (claim : Claim) : Json :=
  .object [("digest", .string claim.digest),
    ("hashtype", .string claim.family), ("path", .string claim.path)]

end MediaHash
