import MediaHash.Criteria
import MediaHash.Manifest.Basic
import MediaHash.Text.Split
import MediaHash.Verdict

/-!
# Checks of a manifest

Every expected digest and size is looked up in the manifest, over all
records of its path.  A fact that is not recorded is missing, one recorded
with several different values is in conflict even if one of them is right,
and one recorded with a single value is compared.  Completeness compares the
expected paths with the paths that the manifest knows.
-/

namespace MediaHash.Check

/-! ## Values -/

/-- Every value but the first equals the first. -/
def agree : List String → Bool
  | [] => true
  | first :: rest => rest.all fun value => value == first

/-- The verdict on a fact for which the given values are recorded. -/
def judge (fact : Fact) (kind : MismatchKind) (path expected : String)
    (found : List String) : Verdict :=
  match found with
  | [] => .mismatch fact .missingPath (some path) expected ""
  | first :: _ =>
      if agree found then
        if first = expected then .matched fact (some path)
        else .mismatch fact kind (some path) expected first
      else
        .mismatch fact .duplicateConflictingValue (some path) expected
          (Text.joinWith ", " found)

/-- The digests recorded for a path and a family. -/
def digestsFor (manifest : Manifest) (matching : TagMatching)
    (path family : String) : List String :=
  match matching with
  | .caseInsensitive => manifest.digestsFor path family
  | .exact => manifest.digestsForExactly path family

/-- The verdict on one expected digest. -/
def digest (manifest : Manifest) (matching : TagMatching)
    (path family expected : String) : Verdict :=
  judge (.hash family) .hashMismatch path expected
    (digestsFor manifest matching path family)

/-- The verdict on an expected size. -/
def size (manifest : Manifest) (path : String) (expected : Nat) : Verdict :=
  judge .size .sizeMismatch path (Text.decimal expected)
    ((manifest.sizesFor path).map Text.decimal)

/-- The verdicts on what is expected of one path: digests, then the size. -/
def facts (manifest : Manifest) (matching : TagMatching) (path : String)
    (expected : ExpectedFacts) : List Verdict :=
  (expected.digests.map fun (family, value) =>
      digest manifest matching path family value) ++
    expected.size.toList.map (size manifest path)

/-- The verdicts on everything that is expected, path by path. -/
def values (manifest : Manifest) (table : Expectations)
    (matching : TagMatching) : List Verdict :=
  table.paths.flatMap fun (path, expected) =>
    facts manifest matching path expected

/-! ## Completeness -/

/-- The verdict on an expected path. -/
def presence (known : List String) (path : String) : Verdict :=
  if path ∈ known then .matched .presence (some path)
  else
    .mismatch .presence .missingPath (some path) "present" "absent"

/-- The verdict on a path that is known but not expected. -/
def extra (path : String) : Verdict :=
  .mismatch .presence .extraPath (some path) "absent" "present"

/-- The verdicts on expected paths, then on those that are not expected. -/
def completeness (manifest : Manifest) (table : Expectations) :
    List Verdict :=
  let known := manifest.allPaths
  (table.paths.map fun (path, _) => presence known path) ++
    (known.filter fun path => !table.contains path).map extra

/-! ## Counts of fields -/

/-- How often a field is expected to be recorded for a path. -/
structure TagCount where
  path : String
  tag : String
  count : Nat
deriving DecidableEq, Repr

/-- The verdict on one count; a field that is not recorded is missing. -/
def tagCount (manifest : Manifest) (expected : TagCount) : Verdict :=
  let actual := manifest.fieldCount expected.path expected.tag
  if actual = 0 then
    .mismatch (.tagCount expected.tag) .missingPath (some expected.path)
      (Text.decimal expected.count) "0"
  else if actual = expected.count then
    .matched (.tagCount expected.tag) (some expected.path)
  else
    .mismatch (.tagCount expected.tag) .tagCountMismatch (some expected.path)
      (Text.decimal expected.count) (Text.decimal actual)

/-- The verdicts on all counts, in order. -/
def tagCounts (manifest : Manifest) (expected : List TagCount) :
    List Verdict :=
  expected.map (tagCount manifest)

/-! ## The whole manifest -/

/-- The verdicts on values and, if the criteria say so, on completeness. -/
def manifest (subject : Manifest) (table : Expectations)
    (criteria : Criteria) : Report :=
  ⟨values subject table criteria.matching ++
    if criteria.strictCompleteness then completeness subject table else []⟩

end MediaHash.Check
