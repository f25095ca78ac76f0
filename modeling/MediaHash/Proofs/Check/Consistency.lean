import MediaHash.Proofs.Check.Subjects
import MediaHash.Proofs.Manifest.Recording

/-!
# Consistent claims

Claims are consistent when no two of them give one path different digests of
one family.  A manifest that records claims is checked against the listing of
the same claims, in which the last claim about a path and a family counts.

The main statement says that the check passes exactly if the claims are
consistent, and that otherwise nothing but the disputed digests is reported,
each of them once and as a conflict.
-/

namespace MediaHash

open Manifest (HoldsClaims RecordsClaims)

/-- The claim gives a digest of a known family, and a line can state it. -/
structure Claim.Known (claim : Claim) : Prop where
  family : ∃ family : HashType, family ≠ .null ∧
    Text.sameLetters claim.family family.tag = true
  path_oneLine : '\n' ∉ claim.path.toList
  digest_nonempty : claim.digest ≠ ""
  digest_hex : ∀ letter ∈ claim.digest.toList, Text.isHexDigit letter = true

/-- Two of the claims give the path different digests of the family. -/
def Disputed (claims : List Claim) (path : String) (family : HashType) :
    Prop :=
  ∃ left ∈ claims, ∃ right ∈ claims, left.IsAbout path family ∧
    right.IsAbout path family ∧ left.digest ≠ right.digest

/-! ## Claims that a line can state -/

theorem Claim.Known.writable {claim : Claim} (known : claim.Known) :
    claim.Writable := by
  rcases known with ⟨⟨family, -, named⟩, path, nonempty, hex⟩
  refine ⟨?_, HashType.isWord_of_sameLetters_tag named, path, nonempty, hex⟩
  intro empty
  rw [HashType.sameLetters_tag_iff, empty] at named
  exact HashType.tag_ne_empty family named.symm

theorem Claim.Known.ne_null_of_isAbout {claim : Claim} {path : String}
    {family : HashType} (known : claim.Known)
    (about : claim.IsAbout path family) : family ≠ .null := by
  rcases known.family with ⟨stated, notNull, named⟩
  rwa [← HashType.eq_of_sameLetters_tag named about.family]

/-! ## What the listing expects -/

namespace Expectations

section Known

variable {claims : List Claim} (known : ∀ claim ∈ claims, claim.Known)

include known

theorem writable_of_known :
    ∀ claim ∈ (Listing.mk claims).claims, claim.Writable :=
  fun claim member => (known claim member).writable

/-- What is expected of a path and a name is what some claim states. -/
theorem exists_claim_of_expected {path name expected : String}
    (found : (Criteria.standard.expectations ⟨claims⟩).digest? path name =
      some expected) :
    ∃ family : HashType, name = family.tag ∧
      ∃ claim ∈ claims, claim.IsAbout path family ∧
        claim.digest = expected := by
  have writable := writable_of_known known
  rcases exists_claim_of_digest? writable found with
    ⟨other, isOther, rfl⟩
  rcases (known other isOther).family with ⟨family, -, named⟩
  have plain : Text.lowerCase other.family = family.tag :=
    HashType.sameLetters_tag_iff.mp named
  rw [digest?_expectations writable, Listing.lastDigest?] at found
  rcases Option.map_eq_some_iff.mp found with ⟨claim, last, rfl⟩
  have member := List.mem_of_getLast? last
  rw [List.mem_filter, Bool.and_eq_true, beq_iff_eq] at member
  rcases member with ⟨isClaim, samePath, sameFamily⟩
  refine ⟨family, plain, claim, isClaim, ⟨samePath, ?_⟩, rfl⟩
  rw [HashType.sameLetters_tag_iff, ← plain]
  exact (Text.sameLetters_iff _ _).mp sameFamily

/-- Where a claim states a digest, some digest is expected. -/
theorem exists_expected_of_claim {claim : Claim} {path : String}
    {family : HashType} (member : claim ∈ claims)
    (about : claim.IsAbout path family) :
    ∃ expected, (Criteria.standard.expectations ⟨claims⟩).digest? path
      family.tag = some expected := by
  have last : (Criteria.standard.expectations ⟨claims⟩).digest? path
      (Criteria.standard.matching.plain family.tag) =
        Listing.lastDigest? ⟨claims⟩ Criteria.standard.matching path
          family.tag :=
    digest?_expectations (writable_of_known known) path family.tag
  have plain : Criteria.standard.matching.plain family.tag = family.tag :=
    HashType.lowerCase_tag family
  rw [plain, Listing.lastDigest?] at last
  rw [last]
  have listed : claim ∈ claims.filter fun claim => claim.path == path &&
      Criteria.standard.matching.same claim.family family.tag := by
    rw [List.mem_filter, about.path, beq_self_eq_true, Bool.true_and]
    exact ⟨member, about.family⟩
  rcases Option.isSome_iff_exists.mp
    (List.getLast?_isSome.mpr (List.ne_nil_of_mem listed)) with
    ⟨final, isFinal⟩
  exact ⟨final.digest, by rw [isFinal]; rfl⟩

end Known

end Expectations

/-! ## The verdicts -/

namespace Check

section Holding

variable {claims : List Claim} {manifest : Manifest}
  (holds : manifest.HoldsClaims claims)

include holds

/-- A digest that a claim states checks out unless it is disputed. -/
theorem isMatch_digest_of_holdsClaims {claim : Claim} {path : String}
    {family : HashType} (notNull : family ≠ .null) (member : claim ∈ claims)
    (about : claim.IsAbout path family) :
    (digest manifest .caseInsensitive path family.tag
        claim.digest).isMatch = true ↔ ¬ Disputed claims path family := by
  have recorded (value : String) :
      value ∈ digestsFor manifest .caseInsensitive path family.tag ↔
        ∃ claim ∈ claims, claim.IsAbout path family ∧
          claim.digest = value :=
    holds.digests path family value notNull
  rw [digest, isMatch_judge_iff]
  constructor
  · rintro ⟨-, same⟩ ⟨left, isLeft, right, isRight, leftAbout, rightAbout,
      different⟩
    have leftSame := same left.digest
      ((recorded _).mpr ⟨left, isLeft, leftAbout, rfl⟩)
    have rightSame := same right.digest
      ((recorded _).mpr ⟨right, isRight, rightAbout, rfl⟩)
    exact different (leftSame.trans rightSame.symm)
  · intro undisputed
    constructor
    · exact List.ne_nil_of_mem
        ((recorded _).mpr ⟨claim, member, about, rfl⟩)
    · intro value isRecorded
      rcases (recorded value).mp isRecorded with
        ⟨other, isOther, otherAbout, rfl⟩
      by_contra different
      exact undisputed ⟨other, isOther, claim, member, otherAbout, about,
        different⟩

theorem kind?_digest_of_holdsClaims {claim : Claim} {path : String}
    {family : HashType} (notNull : family ≠ .null) (member : claim ∈ claims)
    (about : claim.IsAbout path family)
    (failed : (digest manifest .caseInsensitive path family.tag
      claim.digest).isMatch = false) :
    (digest manifest .caseInsensitive path family.tag claim.digest).kind? =
      some .duplicateConflictingValue :=
  kind?_judge_of_mem ((holds.digests path family claim.digest notNull).mpr
    ⟨claim, member, about, rfl⟩) failed

end Holding

section Report

variable {claims : List Claim} (known : ∀ claim ∈ claims, claim.Known)
  {manifest : Manifest} (holds : manifest.HoldsClaims claims)

/-- The report on a manifest that is checked against the claims. -/
def reportOn (manifest : Manifest) (claims : List Claim) : Report :=
  Check.manifest manifest (Criteria.standard.expectations ⟨claims⟩) .standard

include known holds

/-- The paths are complete, so that only values can fail. -/
theorem mismatches_reportOn :
    (reportOn manifest claims).mismatches =
      (values manifest (Criteria.standard.expectations ⟨claims⟩)
        .caseInsensitive).filter fun verdict => !verdict.isMatch := by
  have writable := Expectations.writable_of_known known
  have ordered : (Criteria.standard.expectations ⟨claims⟩).Ordered :=
    Expectations.ordered_expectations writable
  have complete : (completeness manifest
      (Criteria.standard.expectations ⟨claims⟩)).all Verdict.isMatch =
        true := by
    rw [all_completeness_iff ordered]
    intro path
    rw [holds.paths, Expectations.contains_expectations writable]
  have nothing : (completeness manifest
      (Criteria.standard.expectations ⟨claims⟩)).filter
        (fun verdict => !verdict.isMatch) = [] := by
    rw [List.filter_eq_nil_iff]
    intro verdict member
    rw [List.all_eq_true.mp complete verdict member]
    decide
  show (values _ _ _ ++ completeness _ _).filter _ = _
  rw [List.filter_append, nothing, List.append_nil]
  rfl

/-- A mismatch is a digest that some claim states and another disputes. -/
theorem mem_mismatches_reportOn_iff {verdict : Verdict} :
    verdict ∈ (reportOn manifest claims).mismatches ↔
      ∃ path family expected,
        (Criteria.standard.expectations ⟨claims⟩).digest? path family =
            some expected ∧
          digest manifest .caseInsensitive path family expected = verdict ∧
            verdict.isMatch = false := by
  have writable := Expectations.writable_of_known known
  have ordered : (Criteria.standard.expectations ⟨claims⟩).Ordered :=
    Expectations.ordered_expectations writable
  rw [mismatches_reportOn known holds, List.mem_filter,
    mem_values_iff ordered]
  simp only [Expectations.size?_expectations writable, Bool.not_eq_true']
  constructor
  · rintro ⟨⟨path, family, expected, found, same⟩ | none, failed⟩
    · exact ⟨path, family, expected, found, same, failed⟩
    · simp at none
  · rintro ⟨path, family, expected, found, same, failed⟩
    exact ⟨.inl ⟨path, family, expected, found, same⟩, failed⟩

theorem nodup_mismatches_reportOn :
    ((reportOn manifest claims).mismatches.map Verdict.subject).Nodup := by
  have ordered : (Criteria.standard.expectations ⟨claims⟩).Ordered :=
    Expectations.ordered_expectations (Expectations.writable_of_known known)
  rw [mismatches_reportOn known holds, List.Nodup, List.pairwise_map]
  exact (pairwise_values manifest .caseInsensitive ordered).filter _

theorem mem_subjects_reportOn_iff {subject : Option String × Fact} :
    subject ∈ (reportOn manifest claims).mismatches.map Verdict.subject ↔
      ∃ path family, Disputed claims path family ∧
        subject = (some path, .hash family.tag) := by
  rw [List.mem_map]
  constructor
  · rintro ⟨verdict, isMismatch, rfl⟩
    rcases (mem_mismatches_reportOn_iff known holds).mp isMismatch with
      ⟨path, name, expected, found, rfl, failed⟩
    rcases Expectations.exists_claim_of_expected known found with
      ⟨family, rfl, claim, member, about, rfl⟩
    have notNull := (known claim member).ne_null_of_isAbout about
    refine ⟨path, family, ?_, subject_digest _ _ _ _ _⟩
    by_contra undisputed
    rw [(isMatch_digest_of_holdsClaims holds notNull member about).mpr
      undisputed] at failed
    cases failed
  · rintro ⟨path, family, disputed, rfl⟩
    have conflict := disputed
    rcases conflict with ⟨left, isLeft, -, -, about, -⟩
    have notNull := (known left isLeft).ne_null_of_isAbout about
    -- What is expected is the last digest, maybe neither of the two.
    rcases Expectations.exists_expected_of_claim known isLeft about with
      ⟨expected, found⟩
    refine ⟨_, (mem_mismatches_reportOn_iff known holds).mpr
      ⟨path, family.tag, expected, found, rfl, ?_⟩,
      subject_digest _ _ _ _ _⟩
    rcases Expectations.exists_claim_of_expected known found with
      ⟨other, sameTag, claim, member, claimAbout, rfl⟩
    cases HashType.tag_injective sameTag
    rw [Bool.eq_false_iff]
    intro matched
    exact (isMatch_digest_of_holdsClaims holds notNull member claimAbout).mp
      matched disputed

theorem kind?_of_mem_mismatches_reportOn {verdict : Verdict}
    (isMismatch : verdict ∈ (reportOn manifest claims).mismatches) :
    verdict.kind? = some .duplicateConflictingValue := by
  rcases (mem_mismatches_reportOn_iff known holds).mp isMismatch with
    ⟨path, name, expected, found, rfl, failed⟩
  rcases Expectations.exists_claim_of_expected known found with
    ⟨family, rfl, claim, member, about, rfl⟩
  have notNull := (known claim member).ne_null_of_isAbout about
  exact kind?_digest_of_holdsClaims holds notNull member about failed

theorem passed_reportOn_iff :
    (reportOn manifest claims).passed = true ↔
      ∀ path family, ¬ Disputed claims path family := by
  have nothing : (reportOn manifest claims).mismatches = [] ↔
      (reportOn manifest claims).mismatches.map Verdict.subject = [] :=
    List.map_eq_nil_iff.symm
  rw [Report.passed_iff_mismatches, nothing, List.eq_nil_iff_forall_not_mem]
  simp only [mem_subjects_reportOn_iff known holds]
  constructor
  · intro none path family disputed
    exact none _ ⟨path, family, disputed, rfl⟩
  · rintro undisputed subject ⟨path, family, disputed, -⟩
    exact undisputed path family disputed

end Report

/--
A tree that records claims reads as a manifest.  Checked by the standard
criteria against the listing of the claims, the manifest passes exactly if no
digest is disputed.  Every mismatch is a conflict of values, and there is one
for each path and family with a disputed digest.
-/
theorem listing_accepts_consistent_claims {claims : List Claim}
    (known : ∀ claim ∈ claims, claim.Known) {root : Xml.Node}
    (records : RecordsClaims root claims) :
    ∃ manifest report,
      Manifest.ofTree root = .ok manifest ∧
      (∀ document, Xml.read document = .ok root →
        Manifest.read document = .ok manifest) ∧
      Check.manifest manifest
        (Criteria.standard.expectations (.read (Listing.text ⟨claims⟩)))
        .standard = report ∧
      (report.passed = true ↔
        ∀ path family, ¬ Disputed claims path family) ∧
      (∀ verdict ∈ report.mismatches,
        verdict.kind? = some .duplicateConflictingValue) ∧
      (report.mismatches.map Verdict.subject).Nodup ∧
      ∀ subject, subject ∈ report.mismatches.map Verdict.subject ↔
        ∃ path family, Disputed claims path family ∧
          subject = (some path, .hash family.tag) := by
  rcases Manifest.exists_manifest_of_recordsClaims records with
    ⟨manifest, read, holds⟩
  refine ⟨manifest, reportOn manifest claims, read, ?_, ?_,
    passed_reportOn_iff known holds,
    fun _ => kind?_of_mem_mismatches_reportOn known holds,
    nodup_mismatches_reportOn known holds,
    fun _ => mem_subjects_reportOn_iff known holds⟩
  · intro document parsed
    rw [Manifest.read, parsed]
    exact read
  · rw [Listing.read_text_of_writable (Expectations.writable_of_known known)]
    rfl

/-! ## A dispute -/

/-- Two claims that give one file different digests. -/
def twoClaims : List Claim :=
  [⟨"MD5", "a", "00"⟩, ⟨"Md5", "a", "ff"⟩]

/-- A group with a file and a digest. -/
def groupNode (path digest : String) : Xml.Node :=
  .element "hash"
    [.element "file" [.text path], .element "md5" [.text digest]]

/-- A tree that records the two claims, the later one first. -/
def twoGroups : Xml.Node :=
  .element "hashlist" [groupNode "a" "ff", .text "\n", groupNode " a" "00"]

theorem known_twoClaims : ∀ claim ∈ twoClaims, claim.Known := by
  rw [twoClaims, List.forall_mem_cons, List.forall_mem_singleton]
  exact
    ⟨⟨⟨.md5, by decide, by decide⟩, by decide, by decide,
      List.all_eq_true.mp rfl⟩,
    ⟨⟨.md5, by decide, by decide⟩, by decide, by decide,
      List.all_eq_true.mp rfl⟩⟩

theorem recordsClaims_twoGroups : RecordsClaims twoGroups twoClaims where
  groups := by
    refine ⟨_, _,
      Xml.Node.inDocumentOrder_elements Manifest.isGroup_iff twoGroups,
      List.Perm.swap _ _ [], .cons ⟨?_, ?_, ?_⟩ (.cons ⟨?_, ?_, ?_⟩ .nil)⟩
    · decide
    · exact ⟨.md5, by decide, ⟨rfl, by decide⟩, by decide⟩
    · intro text member
      cases member
    · decide
    · exact ⟨.md5, by decide, ⟨rfl, by decide⟩, by decide⟩
    · intro text member
      cases member
  files := by
    intro address content found
    rw [← Xml.Node.mem_places] at found
    simp only [twoGroups, groupNode, Xml.Node.places, Xml.Node.placesAll,
      List.map_cons, List.map_nil, List.append_nil, List.cons_append,
      List.nil_append, List.mem_cons, List.not_mem_nil, or_false,
      Prod.mk.injEq, Xml.Node.element.injEq, reduceCtorEq, and_false,
      false_or, String.reduceEq, false_and] at found
    rcases found with ⟨rfl, -⟩ | ⟨rfl, -⟩
    · exact ⟨[0], 0, _, _, rfl, rfl,
        (Manifest.isGroup_iff _ _).mpr ⟨"hash", _, rfl, rfl⟩⟩
    · exact ⟨[2], 0, _, _, rfl, rfl,
        (Manifest.isGroup_iff _ _).mpr ⟨"hash", _, rfl, rfl⟩⟩

/-- The dispute of the two claims is what a check of their tree reports. -/
theorem listing_disputes_two_claims :
    (∀ claim ∈ twoClaims, claim.Known) ∧
    RecordsClaims twoGroups twoClaims ∧
    ∃ manifest report, Manifest.ofTree twoGroups = .ok manifest ∧
      Check.manifest manifest
        (Criteria.standard.expectations (.read (Listing.text ⟨twoClaims⟩)))
        .standard = report ∧
      report.passed = false ∧
      (some "a", .hash "md5") ∈ report.mismatches.map Verdict.subject := by
  rcases listing_accepts_consistent_claims known_twoClaims
    recordsClaims_twoGroups with
    ⟨manifest, report, read, -, checked, passed, -, -, subjects⟩
  have disputed : Disputed twoClaims "a" .md5 :=
    ⟨_, List.mem_cons_self, _, List.mem_cons_of_mem _ List.mem_cons_self,
      ⟨rfl, by decide⟩, ⟨rfl, by decide⟩, by decide⟩
  refine ⟨known_twoClaims, recordsClaims_twoGroups, manifest, report, read,
    checked, ?_, (subjects _).mpr ⟨"a", .md5, disputed, rfl⟩⟩
  rw [Bool.eq_false_iff]
  intro accepted
  exact passed.mp accepted "a" .md5 disputed

end Check

end MediaHash
