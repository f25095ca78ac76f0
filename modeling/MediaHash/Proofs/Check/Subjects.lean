import MediaHash.Proofs.Check.Passing

/-!
# What the verdicts on values are about

Every verdict on a value is about one path and one fact, and no two verdicts
on the values of a table are about the same.  A mismatch is a conflict of
values as soon as the expected value is among those recorded.
-/

namespace MediaHash

/-- The path and the fact that a verdict is about. -/
def Verdict.subject (verdict : Verdict) : Option String × Fact :=
  (verdict.path?, verdict.fact)

theorem Report.passed_iff_mismatches {report : Report} :
    report.passed = true ↔ report.mismatches = [] := by
  simp [Report.passed, Report.mismatches, List.filter_eq_nil_iff]

namespace Check

@[simp]
theorem subject_judge (fact : Fact) (kind : MismatchKind)
    (path expected : String) (found : List String) :
    (judge fact kind path expected found).subject = (some path, fact) := by
  cases found with
  | nil => rfl
  | cons first rest =>
      rw [judge]
      split
      next agreed =>
        split
        next same => rfl
        next different => rfl
      next disagreed => rfl

@[simp]
theorem subject_digest (manifest : Manifest) (matching : TagMatching)
    (path family expected : String) :
    (digest manifest matching path family expected).subject =
      (some path, .hash family) :=
  subject_judge _ _ _ _ _

@[simp]
theorem subject_size (manifest : Manifest) (path : String)
    (expected : Nat) :
    (size manifest path expected).subject = (some path, .size) :=
  subject_judge _ _ _ _ _

/-- Where the expected value is recorded, only a conflict can fail. -/
theorem kind?_judge_of_mem {fact : Fact} {kind : MismatchKind}
    {path expected : String} {found : List String}
    (recorded : expected ∈ found)
    (failed : (judge fact kind path expected found).isMatch = false) :
    (judge fact kind path expected found).kind? =
      some .duplicateConflictingValue := by
  cases found with
  | nil => cases recorded
  | cons first rest =>
      rw [judge] at failed ⊢
      split at failed
      next agreed =>
        split at failed
        next same => cases failed
        next different =>
          rcases List.mem_cons.mp recorded with here | later
          · exact absurd here.symm different
          · exact absurd (agree_cons_iff.mp agreed expected later).symm
              different
      next disagreed =>
        rw [if_neg disagreed]
        rfl

section Table

variable (manifest : Manifest) {table : Expectations}
  (matching : TagMatching)

theorem pairwise_facts {path : String} {expected : ExpectedFacts}
    (ascending : Keyed.Ascending expected.digests) :
    (facts manifest matching path expected).Pairwise fun left right =>
      left.subject ≠ right.subject := by
  rw [facts, List.pairwise_append, List.pairwise_map, List.pairwise_map]
  refine ⟨?_, ?_, ?_⟩
  · refine ascending.imp fun {left right} before => ?_
    simp only [subject_digest, ne_eq, Prod.mk.injEq, Fact.hash.injEq,
      true_and]
    exact String.ne_of_lt before
  · cases expected.size with
    | none => exact List.Pairwise.nil
    | some stated => exact List.pairwise_singleton _ _
  · intro left isDigest right isSize
    rcases List.mem_map.mp isDigest with ⟨entry, -, rfl⟩
    rcases List.mem_map.mp isSize with ⟨stated, -, rfl⟩
    simp

theorem path?_of_mem_facts {path : String} {expected : ExpectedFacts}
    {verdict : Verdict}
    (member : verdict ∈ facts manifest matching path expected) :
    verdict.subject.1 = some path := by
  rcases List.mem_append.mp member with isDigest | isSize
  · rcases List.mem_map.mp isDigest with ⟨entry, -, rfl⟩
    rw [subject_digest]
  · rcases List.mem_map.mp isSize with ⟨stated, -, rfl⟩
    rw [subject_size]

/-- No two verdicts on values are about the same path and fact. -/
theorem pairwise_values (ordered : table.Ordered) :
    (values manifest table matching).Pairwise fun left right =>
      left.subject ≠ right.subject := by
  rw [values, List.pairwise_flatMap]
  constructor
  · rintro ⟨path, expected⟩ member
    exact pairwise_facts manifest matching (ordered.families _ member)
  · refine ordered.paths.imp fun {left right} before => ?_
    intro first isFirst second isSecond same
    have firstPath := path?_of_mem_facts manifest matching isFirst
    have secondPath := path?_of_mem_facts manifest matching isSecond
    rw [same, secondPath, Option.some_inj] at firstPath
    exact String.ne_of_lt before firstPath.symm

end Table

end Check

end MediaHash
