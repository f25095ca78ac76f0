import MediaHash.Proofs.Check.Deciding

/-!
# What more records can change

The checks of values ask which values are recorded, not in which order and
how often.  Records that are permuted or repeated leave every verdict as it
is, up to the list of values that a conflict reports.  Records that are added
can only move a verdict on: a missing value may become anything, and all else
stays or becomes a conflict.  A wrong value is never repaired.
-/

namespace MediaHash

namespace Verdict

/-- The same verdict, up to the values that a conflict reports. -/
inductive SameOutcome : Verdict → Verdict → Prop
  | same (verdict : Verdict) : SameOutcome verdict verdict
  | conflict (fact : Fact) (path : Option String)
      (expected left right : String) :
      SameOutcome
        (.mismatch fact .duplicateConflictingValue path expected left)
        (.mismatch fact .duplicateConflictingValue path expected right)

/-- What a verdict may become when more values are recorded. -/
inductive Escalates (earlier later : Verdict) : Prop
  | missing (absent : earlier.kind? = some .missingPath)
      (sameSubject : earlier.subject = later.subject)
  | same (unchanged : earlier = later)
  | conflict (disputed : later.kind? = some .duplicateConflictingValue)
      (sameSubject : earlier.subject = later.subject)

theorem isMatch_eq_false_of_kind? {verdict : Verdict} {kind : MismatchKind}
    (known : verdict.kind? = some kind) : verdict.isMatch = false := by
  cases verdict with
  | matched fact path => cases known
  | mismatch fact ownKind path expected actual => rfl

/-- Only what is missing can be repaired. -/
theorem Escalates.isMatch_eq_false {earlier later : Verdict}
    (escalates : earlier.Escalates later) (failed : earlier.isMatch = false)
    (notMissing : earlier.kind? ≠ some .missingPath) :
    later.isMatch = false := by
  cases escalates with
  | missing absent => exact absurd absent notMissing
  | same unchanged => rwa [← unchanged]
  | conflict disputed => exact isMatch_eq_false_of_kind? disputed

end Verdict

namespace Check

/-! ## One value -/

section OneValue

variable {item : ExpectedValue} {recorded grown : List String}
  {earlier later : Verdict}

/-- Next to a value that is recorded, others can only make a conflict. -/
theorem Decided.eq_compared_or_conflict (decided : Decided item grown later)
    {value : String} (isRecorded : value ∈ grown) :
    later = item.compared value ∨
      later.kind? = some .duplicateConflictingValue := by
  by_cases only : ∀ other ∈ grown, other = value
  · exact .inl (decided.eq_of_only isRecorded only)
  · simp only [not_forall] at only
    rcases only with ⟨other, isOther, different⟩
    rw [decided.eq_of_two isOther isRecorded different]
    exact .inr rfl

variable (before : Decided item recorded earlier)
  (after : Decided item grown later)

include before after

theorem Decided.sameOutcome
    (same : ∀ value, value ∈ grown ↔ value ∈ recorded) :
    earlier.SameOutcome later := by
  cases before with
  | missing none =>
      rw [after.eq_of_none fun value => mt (same value).mp (none value)]
      exact .same _
  | matched isRecorded only =>
      rw [after.eq_of_only ((same _).mpr isRecorded)
        fun value isGrown => only value ((same value).mp isGrown),
        ExpectedValue.compared, if_pos rfl]
      exact .same _
  | wrong value isRecorded only different =>
      rw [after.eq_of_only ((same value).mpr isRecorded)
        fun other isGrown => only other ((same other).mp isGrown),
        ExpectedValue.compared, if_neg different]
      exact .same _
  | conflict left right isLeft isRight different =>
      rw [after.eq_of_two ((same left).mpr isLeft) ((same right).mpr isRight)
        different]
      exact .conflict _ _ _ _ _

theorem Decided.escalates (more : ∀ value ∈ recorded, value ∈ grown) :
    earlier.Escalates later := by
  have sameSubject : earlier.subject = later.subject :=
    before.subject_eq.trans after.subject_eq.symm
  cases before with
  | missing none => exact .missing rfl sameSubject
  | matched isRecorded only =>
      rcases after.eq_compared_or_conflict (more _ isRecorded) with
        unchanged | disputed
      · rw [ExpectedValue.compared, if_pos rfl] at unchanged
        exact .same unchanged.symm
      · exact .conflict disputed sameSubject
  | wrong value isRecorded only different =>
      rcases after.eq_compared_or_conflict (more _ isRecorded) with
        unchanged | disputed
      · rw [ExpectedValue.compared, if_neg different] at unchanged
        exact .same unchanged.symm
      · exact .conflict disputed sameSubject
  | conflict left right isLeft isRight different =>
      rw [after.eq_of_two (more left isLeft) (more right isRight) different]
        at sameSubject ⊢
      exact .conflict rfl sameSubject

end OneValue

/-! ## All values -/

theorem mem_recorded_of_subset {manifest grown : Manifest}
    (more : ∀ record ∈ manifest.records, record ∈ grown.records)
    (matching : TagMatching) (item : ExpectedValue) :
    ∀ value ∈ item.recorded manifest matching,
      value ∈ item.recorded grown matching := by
  have moreFor {path : String} :
      ∀ record ∈ manifest.recordsFor path, record ∈ grown.recordsFor path :=
    fun record member => List.mem_filter.mpr
      ⟨more record (List.mem_of_mem_filter member),
        (List.mem_filter.mp member).2⟩
  intro value member
  cases item with
  | digest path family digest =>
      rw [← digestsFor_eq, mem_digestsFor_iff] at member ⊢
      rcases member with ⟨record, isRecord, stated⟩
      exact ⟨record, moreFor record isRecord, stated⟩
  | size path size =>
      rcases List.mem_map.mp member with ⟨stated, isStated, rfl⟩
      rcases mem_sizesFor_iff.mp isStated with ⟨record, isRecord, inRecord⟩
      exact List.mem_map_of_mem
        (mem_sizesFor_iff.mpr ⟨record, moreFor record isRecord, inRecord⟩)

/-- A relation between the verdicts on each value is one between all. -/
theorem forall₂_values {relation : Verdict → Verdict → Prop}
    {manifest grown : Manifest} {matching other : TagMatching}
    (each : ∀ item : ExpectedValue, ∀ earlier later,
      Decided item (item.recorded manifest matching) earlier →
      Decided item (item.recorded grown other) later →
      relation earlier later) (table : Expectations) :
    List.Forall₂ relation (values manifest table matching)
      (values grown table other) := by
  rw [values_eq_map, values_eq_map, List.forall₂_map_left_iff,
    List.forall₂_map_right_iff, List.forall₂_same]
  intro item _
  exact each item _ _ (decided_verdictOn manifest matching item)
    (decided_verdictOn grown other item)

/--
Manifests with the same records, in any order and any of them repeated, have
the same outcome value by value.  Where one manifest has all the records of
another and maybe more, each verdict escalates from the other, and none that
has failed on a recorded value becomes a match.
-/
theorem values_escalate (manifest other : Manifest) (table : Expectations)
    (matching : TagMatching) :
    ((∀ record, record ∈ other.records ↔ record ∈ manifest.records) →
      List.Forall₂ Verdict.SameOutcome (values manifest table matching)
        (values other table matching)) ∧
    ((∀ record ∈ manifest.records, record ∈ other.records) →
      List.Forall₂
        (fun earlier later => earlier.Escalates later ∧
          (earlier.isMatch = false → earlier.kind? ≠ some .missingPath →
            later.isMatch = false))
        (values manifest table matching) (values other table matching)) := by
  constructor
  · intro same
    apply forall₂_values
    intro item earlier later before after
    refine before.sameOutcome after fun value => ⟨?_, ?_⟩
    · exact mem_recorded_of_subset (fun record => (same record).mp)
        matching item value
    · exact mem_recorded_of_subset (fun record => (same record).mpr)
        matching item value
  · intro more
    apply forall₂_values
    intro item earlier later before after
    have escalates : earlier.Escalates later :=
      before.escalates after (mem_recorded_of_subset more matching item)
    exact ⟨escalates, escalates.isMatch_eq_false⟩

/-! ## A wrong digest -/

/-- The later of the two records, which has another digest and no size. -/
def recordedWrong : Manifest :=
  { recordedTwice with records := recordedTwice.records.drop 1 }

/-- The two records the other way round, the wrong one once more. -/
def recordedThrice : Manifest :=
  { recordedTwice with
    records := recordedTwice.records.reverse ++ recordedWrong.records }

/-- The right digest next to the wrong one is no repair but a conflict. -/
theorem wrong_digest_escalates :
    (∀ record, record ∈ recordedThrice.records ↔
      record ∈ recordedTwice.records) ∧
    List.Forall₂ Verdict.SameOutcome
      (values recordedTwice digestAndSize .caseInsensitive)
      (values recordedThrice digestAndSize .caseInsensitive) ∧
    (∀ record ∈ recordedWrong.records, record ∈ recordedTwice.records) ∧
    List.Forall₂
      (fun earlier later => earlier.Escalates later ∧
        (earlier.isMatch = false → earlier.kind? ≠ some .missingPath →
          later.isMatch = false))
      (values recordedWrong digestAndSize .caseInsensitive)
      (values recordedTwice digestAndSize .caseInsensitive) ∧
    values recordedWrong digestAndSize .caseInsensitive =
      [.mismatch (.hash "md5") .hashMismatch (some "a") "00" "ff",
        .mismatch .size .missingPath (some "a") "5" ""] := by
  have same : ∀ record, record ∈ recordedThrice.records ↔
      record ∈ recordedTwice.records := by
    intro record
    simp [recordedThrice, recordedWrong, recordedTwice]
    tauto
  have more : ∀ record ∈ recordedWrong.records,
      record ∈ recordedTwice.records :=
    fun record => List.mem_of_mem_drop
  exact ⟨same,
    (values_escalate recordedTwice recordedThrice digestAndSize
      .caseInsensitive).1 same,
    more,
    (values_escalate recordedWrong recordedTwice digestAndSize
      .caseInsensitive).2 more, by decide⟩

end Check

end MediaHash
