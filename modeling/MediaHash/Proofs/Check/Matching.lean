import MediaHash.Proofs.Check.Escalation

/-!
# Two ways to match names

Fields are looked up with or without regard to the case of letters.  Names
that are the same letter by letter are also the same without regard to case,
so the exact look-up finds some of the values that the other one finds.  A
verdict under exact matching is the other one or says that the value is
missing, unless the other one is a conflict, and only a conflict can make a
conflict.  Where all names are small, both look-ups find the same.
-/

namespace MediaHash

/-! ## Names -/

namespace TagMatching

theorem same_of_same_exact {left right : String}
    (equal : exact.same left right = true) (matching : TagMatching) :
    matching.same left right = true := by
  rw [same_iff] at equal ⊢
  exact congrArg matching.plain equal

theorem plain_of_isSmall {name : String} (small : Text.IsSmall name)
    (matching : TagMatching) : matching.plain name = name := by
  cases matching with
  | caseInsensitive => exact Text.lowerCase_of_isSmall small
  | exact => rfl

theorem same_of_isSmall {left right : String} (leftSmall : Text.IsSmall left)
    (rightSmall : Text.IsSmall right) (matching other : TagMatching) :
    matching.same left right = other.same left right := by
  rw [Bool.eq_iff_iff, same_iff, same_iff, plain_of_isSmall leftSmall,
    plain_of_isSmall leftSmall, plain_of_isSmall rightSmall,
    plain_of_isSmall rightSmall]

end TagMatching

/-- All fields of the records have small names. -/
def Manifest.HasSmallNames (manifest : Manifest) : Prop :=
  ∀ record ∈ manifest.records, ∀ field ∈ record.fields,
    Text.IsSmall field.name

instance (manifest : Manifest) : Decidable manifest.HasSmallNames :=
  inferInstanceAs (Decidable (∀ record ∈ manifest.records,
    ∀ field ∈ record.fields, Text.IsSmall field.name))

/-- All families of which a digest is expected have small names. -/
def Expectations.HasSmallNames (table : Expectations) : Prop :=
  ∀ entry ∈ table.paths, ∀ expected ∈ entry.2.digests,
    Text.IsSmall expected.1

instance (table : Expectations) : Decidable table.HasSmallNames :=
  inferInstanceAs (Decidable (∀ entry ∈ table.paths,
    ∀ expected ∈ entry.2.digests, Text.IsSmall expected.1))

theorem Expectations.HasSmallNames.family {table : Expectations}
    (small : table.HasSmallNames) {path family digest : String}
    (member : .digest path family digest ∈ table.items) :
    Text.IsSmall family := by
  rcases List.mem_flatMap.mp member with ⟨entry, isEntry, isItem⟩
  rcases List.mem_append.mp isItem with isDigest | isSize
  · rcases List.mem_map.mp isDigest with ⟨expected, isExpected, equal⟩
    cases equal
    exact small entry isEntry expected isExpected
  · rcases List.mem_map.mp isSize with ⟨size, -, equal⟩
    cases equal

/-! ## Recorded values -/

namespace ExpectedValue

theorem mem_recorded_of_exact {manifest : Manifest} {item : ExpectedValue}
    (matching : TagMatching) :
    ∀ value ∈ item.recorded manifest .exact,
      value ∈ item.recorded manifest matching := by
  intro value member
  cases item with
  | digest path family digest =>
      rcases List.mem_map.mp member with ⟨field, isField, rfl⟩
      rcases List.mem_filter.mp isField with ⟨isRecorded, named⟩
      apply List.mem_map_of_mem
      exact List.mem_filter.mpr
        ⟨isRecorded, TagMatching.same_of_same_exact named matching⟩
  | size path size => exact member

theorem recorded_of_hasSmallNames {manifest : Manifest}
    (fields : manifest.HasSmallNames) {item : ExpectedValue}
    (family : ∀ path family digest, item = .digest path family digest →
      Text.IsSmall family) (matching other : TagMatching) :
    item.recorded manifest matching = item.recorded manifest other := by
  cases item with
  | digest path name digest =>
      rw [recorded, recorded]
      congr 1
      apply List.filter_congr
      intro field member
      rcases List.mem_flatMap.mp member with ⟨record, isRecord, isField⟩
      apply TagMatching.same_of_isSmall
      · exact fields record (List.mem_of_mem_filter isRecord) field isField
      · exact family path name digest rfl
  | size path size => rfl

end ExpectedValue

/-! ## Verdicts -/

/-- What a verdict may become when some of the values are not looked at. -/
structure Verdict.Restricts (exact loose : Verdict) : Prop where
  subject : exact.subject = loose.subject
  size : loose.fact = .size → exact = loose
  missing : loose.kind? = some .missingPath → exact = loose
  matched : loose.isMatch = true →
    exact = loose ∨ exact.kind? = some .missingPath
  mismatch : loose.kind? = some .hashMismatch →
    exact = loose ∨ exact.kind? = some .missingPath
  conflict : exact.kind? = some .duplicateConflictingValue →
    loose.kind? = some .duplicateConflictingValue

namespace Check

/-- Where nothing is recorded, there is nothing to leave out. -/
theorem Decided.eq_of_missing {item : ExpectedValue}
    {recorded fewer : List String} {loose exact : Verdict}
    (decided : Decided item recorded loose) (other : Decided item fewer exact)
    (within : ∀ value ∈ fewer, value ∈ recorded)
    (missing : loose.kind? = some .missingPath) : exact = loose := by
  cases decided with
  | missing none =>
      apply other.eq_of_none
      intro value member
      exact none value (within value member)
  | matched => cases missing
  | wrong => cases item <;> cases missing
  | conflict => cases missing

theorem restricts_of_decided {manifest : Manifest} {item : ExpectedValue}
    {loose exact : Verdict}
    (decided : Decided item (item.recorded manifest .caseInsensitive) loose)
    (other : Decided item (item.recorded manifest .exact) exact) :
    exact.Restricts loose := by
  have within : ∀ value ∈ item.recorded manifest .exact,
      value ∈ item.recorded manifest .caseInsensitive :=
    ExpectedValue.mem_recorded_of_exact .caseInsensitive
  -- Looking at fewer values is the reverse of recording more of them.
  have escalates : exact.Escalates loose := other.escalates decided within
  have same_or_missing :
      loose.kind? ≠ some .duplicateConflictingValue →
        exact = loose ∨ exact.kind? = some .missingPath := by
    intro undisputed
    cases escalates with
    | missing absent => exact .inr absent
    | same unchanged => exact .inl unchanged
    | conflict disputed => exact absurd disputed undisputed
  constructor
  · exact other.subject_eq.trans decided.subject_eq.symm
  · intro isSize
    have sizeFact : item.fact = .size :=
      (congrArg Prod.snd decided.subject_eq).symm.trans isSize
    cases item with
    | digest path family digest => cases sizeFact
    | size path size => exact other.unique decided
  · exact decided.eq_of_missing other within
  · intro isMatch
    apply same_or_missing
    intro disputed
    rw [Verdict.isMatch_eq_false_of_kind? disputed] at isMatch
    cases isMatch
  · intro wrong
    apply same_or_missing
    rw [wrong]
    decide
  · intro disputed
    cases escalates with
    | missing absent =>
        rw [absent] at disputed
        cases disputed
    | same unchanged => rwa [← unchanged]
    | conflict looseDisputed => exact looseDisputed

/--
Under exact matching there is a verdict on the same path and fact in the same
place as under matching without regard to case.  The verdicts on sizes are the
same, and what is missing stays missing.  A digest that was matched or wrong
may be missing instead, and none is disputed that was not disputed before.  If
no name has a letter of A to Z, the verdicts are the same.
-/
theorem exact_restricts_caseInsensitive (manifest : Manifest)
    (table : Expectations) :
    List.Forall₂ (fun loose exact => exact.Restricts loose)
        (values manifest table .caseInsensitive)
        (values manifest table .exact) ∧
      (manifest.HasSmallNames → table.HasSmallNames →
        values manifest table .caseInsensitive =
          values manifest table .exact) := by
  constructor
  · apply forall₂_values
    intro item loose exact decided other
    exact restricts_of_decided decided other
  · intro fields families
    rw [values_eq_map, values_eq_map]
    apply List.map_congr_left
    intro item member
    have recorded : item.recorded manifest .caseInsensitive =
        item.recorded manifest .exact := by
      apply ExpectedValue.recorded_of_hasSmallNames fields
      rintro path family digest rfl
      exact families.family member
    rw [verdictOn_eq_judge, verdictOn_eq_judge, recorded]

/-! ## A family in two spellings -/

/-- The digest under one spelling is right, and the one that matches is not. -/
theorem exact_of_recordedTwice :
    List.Forall₂ (fun loose exact => exact.Restricts loose)
      (values recordedTwice digestAndSize .caseInsensitive)
      (values recordedTwice digestAndSize .exact) ∧
    values recordedTwice digestAndSize .caseInsensitive =
      [.mismatch (.hash "md5") .duplicateConflictingValue (some "a") "00"
          "00, ff",
        .matched .size (some "a")] ∧
    values recordedTwice digestAndSize .exact =
      [.mismatch (.hash "md5") .hashMismatch (some "a") "00" "ff",
        .matched .size (some "a")] ∧
    recordedWrong.HasSmallNames ∧ digestAndSize.HasSmallNames ∧
    values recordedWrong digestAndSize .caseInsensitive =
      values recordedWrong digestAndSize .exact := by
  have fields : recordedWrong.HasSmallNames := by decide
  have families : digestAndSize.HasSmallNames := by decide
  exact ⟨(exact_restricts_caseInsensitive recordedTwice digestAndSize).1,
    by decide, by decide, fields, families,
    (exact_restricts_caseInsensitive recordedWrong digestAndSize).2 fields
      families⟩

end Check

end MediaHash
