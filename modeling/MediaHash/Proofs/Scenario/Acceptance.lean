import MediaHash.Proofs.Check.Passing
import MediaHash.Proofs.Manifest.Paths
import MediaHash.Scenario

/-!
# Which manifests are accepted

The captured inputs of a manifest scenario are a document, a listing, a list
of sizes and a list of counts.  What they must satisfy for the scenario to
pass is stated here on these inputs themselves, without a table of
expectations and without verdicts.

The main statement says that judging fails exactly on a document that is no
manifest, and that otherwise the report passes exactly when the inputs
satisfy the statement.
-/

namespace MediaHash

open Expectations (Demand)

/-! ## Acceptance -/

namespace ManifestContents

/-- The claims that are expected of the manifest. -/
def listing (subject : ManifestContents) : Listing :=
  .read subject.expectations

/-- The size that is listed last for a path. -/
def lastSize? (subject : ManifestContents) (path : String) : Option Nat :=
  ((subject.sizes.filter fun entry => entry.1 == path).getLast?).map Prod.snd

/-- What the inputs must satisfy if the document reads as a manifest. -/
structure Accepted (subject : ManifestContents) (criteria : Criteria)
    (manifest : Manifest) : Prop where
  digests : ∀ path family digest,
    subject.listing.lastDigest? criteria.matching path family =
        some digest →
      manifest.HasOnlyDigest criteria.matching path family digest
  sizes : ∀ path size, subject.lastSize? path = some size →
    manifest.HasOnlySize path size
  files : criteria.strictCompleteness = true → ∀ path,
    NamesFile subject.manifest path ↔
      (∃ claim ∈ subject.listing.claims, claim.path = path) ∨
        ∃ entry ∈ subject.sizes, entry.1 = path
  counts : ∀ expected ∈ subject.tagCounts, 0 < expected.count ∧
    ((manifest.recordsFor expected.path).flatMap
        Manifest.Record.fields).countP
      (fun field => Text.sameLetters field.name expected.tag) =
        expected.count

/-! ## The table of expectations -/

/-- What the list of sizes demands, in its order. -/
def sizeDemands (subject : ManifestContents) : List Demand :=
  subject.sizes.map fun entry => .size entry.1 entry.2

section Table

variable (subject : ManifestContents) (criteria : Criteria)

theorem table_eq_demandAll :
    subject.table criteria =
      (criteria.expectations subject.listing).demandAll
        subject.sizeDemands := by
  rw [table, Expectations.demandAll, sizeDemands, List.foldl_map]
  rfl

theorem digestsFor_sizeDemands (path family : String) :
    subject.sizeDemands.filterMap (Demand.digestFor? path family) = [] := by
  rw [sizeDemands, List.filterMap_map, List.filterMap_eq_nil_iff]
  intro entry member
  rfl

theorem sizesFor_sizeDemands (path : String) :
    subject.sizeDemands.filterMap (Demand.sizeFor? path) =
      (subject.sizes.filter fun entry => entry.1 == path).map Prod.snd := by
  rw [sizeDemands, List.filterMap_map, ← List.filterMap_eq_map,
    List.filterMap_filter]
  apply List.filterMap_congr
  intro entry member
  simp [Demand.sizeFor?]

theorem writable_claims :
    ∀ claim ∈ subject.listing.claims, claim.Writable :=
  fun _ => Listing.writable_of_mem_read

theorem ordered_expectations :
    (criteria.expectations subject.listing).Ordered :=
  Expectations.ordered_expectations subject.writable_claims

theorem ordered_table : (subject.table criteria).Ordered := by
  rw [table_eq_demandAll]
  exact (subject.ordered_expectations criteria).demandAll _

theorem digest?_table (path family : String) :
    (subject.table criteria).digest? path family =
      (criteria.expectations subject.listing).digest? path family := by
  rw [table_eq_demandAll, Expectations.digest?_demandAll
    (subject.ordered_expectations criteria), digestsFor_sizeDemands]
  rfl

theorem size?_table (path : String) :
    (subject.table criteria).size? path = subject.lastSize? path := by
  rw [table_eq_demandAll, Expectations.size?_demandAll
    (subject.ordered_expectations criteria), sizesFor_sizeDemands,
    Expectations.size?_expectations subject.writable_claims,
    Option.or_none, List.getLast?_map, lastSize?]

theorem contains_table (path : String) :
    (subject.table criteria).contains path = true ↔
      (∃ claim ∈ subject.listing.claims, claim.path = path) ∨
        ∃ entry ∈ subject.sizes, entry.1 = path := by
  rw [table_eq_demandAll, Expectations.contains_demandAll
    (subject.ordered_expectations criteria),
    Expectations.contains_expectations subject.writable_claims, or_comm]
  simp [sizeDemands, Demand.subject]

end Table

/-! ## Judging -/

section Judging

variable {subject : ManifestContents} {criteria : Criteria}
  {manifest : Manifest}

/-- The table may be asked for digests by plain spellings only. -/
theorem forall_digest?_table_iff :
    (∀ path family expected,
      (subject.table criteria).digest? path family = some expected →
        manifest.HasOnlyDigest criteria.matching path family expected) ↔
    ∀ path family digest,
      subject.listing.lastDigest? criteria.matching path family =
          some digest →
        manifest.HasOnlyDigest criteria.matching path family digest := by
  have writable := subject.writable_claims
  simp only [digest?_table]
  constructor
  · intro recorded path family digest last
    apply Manifest.hasOnlyDigest_plain_iff.mp
    apply recorded
    rw [Expectations.digest?_expectations writable]
    exact last
  · intro recorded path family digest expected
    rcases Expectations.exists_claim_of_digest? writable expected with
      ⟨claim, -, rfl⟩
    rw [Expectations.digest?_expectations writable] at expected
    apply Manifest.hasOnlyDigest_plain_iff.mpr
    exact recorded path claim.family digest expected

theorem all_values_table_iff :
    (Check.values manifest (subject.table criteria)
        criteria.matching).all Verdict.isMatch = true ↔
      (∀ path family digest,
        subject.listing.lastDigest? criteria.matching path family =
            some digest →
          manifest.HasOnlyDigest criteria.matching path family digest) ∧
      ∀ path size, subject.lastSize? path = some size →
        manifest.HasOnlySize path size := by
  rw [Check.all_values_iff (subject.ordered_table criteria),
    forall_digest?_table_iff]
  simp only [size?_table]

theorem all_completeness_table_iff
    (read : Manifest.read subject.manifest = .ok manifest) :
    (Check.completeness manifest
        (subject.table criteria)).all Verdict.isMatch = true ↔
      ∀ path, NamesFile subject.manifest path ↔
        (∃ claim ∈ subject.listing.claims, claim.path = path) ∨
          ∃ entry ∈ subject.sizes, entry.1 = path := by
  rw [Check.all_completeness_iff (subject.ordered_table criteria)]
  simp only [Manifest.mem_files_iff read, contains_table]

theorem all_tagCounts_iff {counts : List Check.TagCount} :
    (Check.tagCounts manifest counts).all Verdict.isMatch = true ↔
      ∀ expected ∈ counts, 0 < expected.count ∧
        ((manifest.recordsFor expected.path).flatMap
            Manifest.Record.fields).countP
          (fun field => Text.sameLetters field.name expected.tag) =
            expected.count := by
  simp only [Check.tagCounts, List.all_eq_true, List.forall_mem_map,
    Check.isMatch_tagCount_iff, Check.fieldCount_eq_countP]

theorem all_strictCompleteness_iff
    (read : Manifest.read subject.manifest = .ok manifest) :
    (if criteria.strictCompleteness then
        Check.completeness manifest (subject.table criteria)
      else []).all Verdict.isMatch = true ↔
        (criteria.strictCompleteness = true → ∀ path,
          NamesFile subject.manifest path ↔
            (∃ claim ∈ subject.listing.claims, claim.path = path) ∨
              ∃ entry ∈ subject.sizes, entry.1 = path) := by
  cases criteria.strictCompleteness with
  | false => simp
  | true => simpa using all_completeness_table_iff read

theorem passed_iff_accepted
    (read : Manifest.read subject.manifest = .ok manifest) :
    ((Check.manifest manifest (subject.table criteria) criteria).extend
        (Check.tagCounts manifest subject.tagCounts)).passed = true ↔
      subject.Accepted criteria manifest := by
  rw [Report.extend, Check.manifest, Report.passed, List.all_append,
    Bool.and_eq_true, List.all_append, Bool.and_eq_true,
    all_values_table_iff, all_strictCompleteness_iff read, all_tagCounts_iff]
  constructor
  · rintro ⟨⟨⟨digests, sizes⟩, files⟩, counts⟩
    exact ⟨digests, sizes, files, counts⟩
  · rintro ⟨digests, sizes, files, counts⟩
    exact ⟨⟨⟨digests, sizes⟩, files⟩, counts⟩

end Judging

/--
Judging fails exactly on a document that is no manifest.  Otherwise the
report passes exactly if the inputs are accepted.
-/
theorem judge_accepts (subject : ManifestContents) (criteria : Criteria) :
    match Manifest.read subject.manifest with
    | .error fault =>
        (Scenario.manifestContents subject).judge criteria =
          some (.error (.manifest fault))
    | .ok manifest =>
        ∃ report,
          (Scenario.manifestContents subject).judge criteria =
              some (.ok report) ∧
            (report.passed = true ↔ subject.Accepted criteria manifest) := by
  cases read : Manifest.read subject.manifest with
  | error fault =>
      rw [Scenario.judge, judge, read]
      rfl
  | ok manifest =>
      refine ⟨_, ?_, passed_iff_accepted read⟩
      rw [Scenario.judge, judge, read]
      rfl

end ManifestContents

end MediaHash
