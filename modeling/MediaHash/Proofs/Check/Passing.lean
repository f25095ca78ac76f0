import MediaHash.Check.Manifest
import MediaHash.Proofs.Expectation.Listing

/-!
# When checks of a manifest pass

An expected fact checks out when some value is recorded for it and every
recorded value is the expected one.  The checks of values pass together when
this holds of every digest and size of the table, and completeness passes
when the table expects exactly the paths of the manifest.
-/

namespace MediaHash

namespace Text

theorem decimal_injective : ∀ left right : Nat,
    decimal left = decimal right → left = right := by
  intro left right equal
  have numerals : numeral left = numeral right :=
    String.ofList_injective equal
  rw [← numeralValue_numeral left, numerals, numeralValue_numeral]

end Text

/-! ## A single value -/

namespace Manifest

/-- The fields of a name about a path all have one text, and one exists. -/
structure HasOnlyDigest (manifest : Manifest) (matching : TagMatching)
    (path family digest : String) : Prop where
  present : ∃ record ∈ manifest.recordsFor path, ∃ field ∈ record.fields,
    matching.same field.name family = true
  same : ∀ record ∈ manifest.recordsFor path, ∀ field ∈ record.fields,
    matching.same field.name family = true → field.text = digest

/-- The sizes stated for a path are all the same, and one is stated. -/
structure HasOnlySize (manifest : Manifest) (path : String)
    (size : Nat) : Prop where
  present : ∃ record ∈ manifest.recordsFor path, record.sizes ≠ []
  same : ∀ record ∈ manifest.recordsFor path, ∀ stated ∈ record.sizes,
    stated = size

theorem hasOnlyDigest_plain_iff {manifest : Manifest}
    {matching : TagMatching} {path family digest : String} :
    manifest.HasOnlyDigest matching path (matching.plain family) digest ↔
      manifest.HasOnlyDigest matching path family digest := by
  constructor
  · rintro ⟨present, same⟩
    simp only [TagMatching.same_plain] at present same
    exact ⟨present, same⟩
  · rintro ⟨present, same⟩
    constructor
    · simpa only [TagMatching.same_plain] using present
    · simpa only [TagMatching.same_plain] using same

end Manifest

namespace Check

/-! ## Recorded values -/

theorem mem_digestsFor_iff {manifest : Manifest} {matching : TagMatching}
    {path family value : String} :
    value ∈ digestsFor manifest matching path family ↔
      ∃ record ∈ manifest.recordsFor path, ∃ field ∈ record.fields,
        matching.same field.name family = true ∧ field.text = value := by
  cases matching with
  | caseInsensitive =>
      simp [digestsFor, Manifest.digestsFor, Manifest.Record.valuesOf,
        TagMatching.same, and_assoc]
  | exact =>
      simp [digestsFor, Manifest.digestsForExactly,
        Manifest.Record.valuesOfExactly, TagMatching.same, and_assoc]

theorem mem_sizesFor_iff {manifest : Manifest} {path : String}
    {size : Nat} :
    size ∈ manifest.sizesFor path ↔
      ∃ record ∈ manifest.recordsFor path, size ∈ record.sizes := by
  simp [Manifest.sizesFor]

theorem fieldCount_eq_countP (manifest : Manifest) (path name : String) :
    manifest.fieldCount path name =
      ((manifest.recordsFor path).flatMap Manifest.Record.fields).countP
        fun field => Text.sameLetters field.name name := by
  rw [Manifest.fieldCount, Manifest.digestsFor, List.length_flatMap,
    List.countP_flatMap]
  congr 1
  apply List.map_congr_left
  intro record member
  simp [Manifest.Record.valuesOf, List.countP_eq_length_filter]

/-! ## One fact -/

theorem agree_cons_iff {first : String} {rest : List String} :
    agree (first :: rest) = true ↔ ∀ value ∈ rest, value = first := by
  simp [agree]

/-- A fact checks out if values are recorded and all are the expected one. -/
theorem isMatch_judge_iff {fact : Fact} {kind : MismatchKind}
    {path expected : String} {found : List String} :
    (judge fact kind path expected found).isMatch = true ↔
      found ≠ [] ∧ ∀ value ∈ found, value = expected := by
  cases found with
  | nil => simp [judge, Verdict.isMatch]
  | cons first rest =>
      rw [judge]
      split
      next agreed =>
        rw [agree_cons_iff] at agreed
        split
        next same =>
          simp only [Verdict.isMatch, true_iff]
          refine ⟨List.cons_ne_nil first rest, ?_⟩
          exact List.forall_mem_cons.mpr
            ⟨same, fun value member => (agreed value member).trans same⟩
        next different =>
          simp [Verdict.isMatch, different]
      next disagreed =>
        simp only [Verdict.isMatch, Bool.false_eq_true, false_iff, not_and]
        rintro - allSame
        rcases List.forall_mem_cons.mp allSame with ⟨same, restSame⟩
        refine disagreed (agree_cons_iff.mpr fun value member => ?_)
        exact (restSame value member).trans same.symm

theorem isMatch_digest_iff {manifest : Manifest} {matching : TagMatching}
    {path family expected : String} :
    (digest manifest matching path family expected).isMatch = true ↔
      manifest.HasOnlyDigest matching path family expected := by
  rw [digest, isMatch_judge_iff]
  constructor
  · rintro ⟨present, same⟩
    rcases List.exists_mem_of_ne_nil _ present with ⟨value, member⟩
    rcases mem_digestsFor_iff.mp member with
      ⟨record, isRecord, field, isField, named, -⟩
    constructor
    · exact ⟨record, isRecord, field, isField, named⟩
    · intro record isRecord field isField named
      apply same
      exact mem_digestsFor_iff.mpr
        ⟨record, isRecord, field, isField, named, rfl⟩
  · rintro ⟨⟨record, isRecord, field, isField, named⟩, same⟩
    constructor
    · have member : field.text ∈ digestsFor manifest matching path family :=
        mem_digestsFor_iff.mpr
          ⟨record, isRecord, field, isField, named, rfl⟩
      exact List.ne_nil_of_mem member
    · intro value member
      rcases mem_digestsFor_iff.mp member with
        ⟨record, isRecord, field, isField, named, rfl⟩
      exact same record isRecord field isField named

theorem isMatch_size_iff {manifest : Manifest} {path : String}
    {expected : Nat} :
    (size manifest path expected).isMatch = true ↔
      manifest.HasOnlySize path expected := by
  rw [size, isMatch_judge_iff, List.forall_mem_map, Ne, List.map_eq_nil_iff]
  constructor
  · rintro ⟨present, same⟩
    rcases List.exists_mem_of_ne_nil _ present with ⟨stated, member⟩
    rcases mem_sizesFor_iff.mp member with ⟨record, isRecord, isStated⟩
    constructor
    · exact ⟨record, isRecord, List.ne_nil_of_mem isStated⟩
    · intro record isRecord stated isStated
      apply Text.decimal_injective
      exact same stated (mem_sizesFor_iff.mpr ⟨record, isRecord, isStated⟩)
  · rintro ⟨⟨record, isRecord, present⟩, same⟩
    constructor
    · rcases List.exists_mem_of_ne_nil _ present with ⟨stated, isStated⟩
      have member : stated ∈ manifest.sizesFor path :=
        mem_sizesFor_iff.mpr ⟨record, isRecord, isStated⟩
      exact List.ne_nil_of_mem member
    · intro stated member
      rcases mem_sizesFor_iff.mp member with ⟨record, isRecord, isStated⟩
      rw [same record isRecord stated isStated]

/-- A count checks out if it is right and some field is recorded at all. -/
theorem isMatch_tagCount_iff {manifest : Manifest} {expected : TagCount} :
    (tagCount manifest expected).isMatch = true ↔
      0 < expected.count ∧
        manifest.fieldCount expected.path expected.tag = expected.count := by
  rw [tagCount]
  split
  next none =>
    simp only [Verdict.isMatch, Bool.false_eq_true, false_iff]
    omega
  next some =>
    split
    next same =>
      simp only [Verdict.isMatch, true_iff]
      omega
    next different =>
      simp only [Verdict.isMatch, Bool.false_eq_true, false_iff]
      omega

/-! ## The whole manifest -/

section Table

variable {manifest : Manifest} {table : Expectations}
  {matching : TagMatching}

theorem mem_values_iff (ordered : table.Ordered) {verdict : Verdict} :
    verdict ∈ values manifest table matching ↔
      (∃ path family expected,
        table.digest? path family = some expected ∧
          digest manifest matching path family expected = verdict) ∨
      ∃ path expected, table.size? path = some expected ∧
        size manifest path expected = verdict := by
  simp only [values, facts, List.mem_flatMap, List.mem_append,
    List.mem_map, Option.mem_toList, Prod.exists,
    Expectations.digest?_eq_some_iff ordered,
    Expectations.size?_eq_some_iff ordered]
  constructor
  · rintro ⟨path, facts, here, judged | judged⟩
    · rcases judged with ⟨family, expected, member, rfl⟩
      exact Or.inl ⟨path, family, expected, ⟨facts, here, member⟩, rfl⟩
    · rcases judged with ⟨expected, stated, rfl⟩
      exact Or.inr ⟨path, expected, ⟨facts, here, stated⟩, rfl⟩
  · rintro (judged | judged)
    · rcases judged with ⟨path, family, expected, ⟨facts, here, member⟩, rfl⟩
      exact ⟨path, facts, here, Or.inl ⟨family, expected, member, rfl⟩⟩
    · rcases judged with ⟨path, expected, ⟨facts, here, stated⟩, rfl⟩
      exact ⟨path, facts, here, Or.inr ⟨expected, stated, rfl⟩⟩

/-- The checks of values pass together when each fact checks out. -/
theorem all_values_iff (ordered : table.Ordered) :
    (values manifest table matching).all Verdict.isMatch = true ↔
      (∀ path family expected,
        table.digest? path family = some expected →
          manifest.HasOnlyDigest matching path family expected) ∧
      ∀ path expected, table.size? path = some expected →
        manifest.HasOnlySize path expected := by
  rw [List.all_eq_true]
  constructor
  · intro passed
    constructor
    · intro path family expected found
      apply isMatch_digest_iff.mp
      apply passed
      exact (mem_values_iff ordered).mpr
        (Or.inl ⟨path, family, expected, found, rfl⟩)
    · intro path expected found
      apply isMatch_size_iff.mp
      apply passed
      exact (mem_values_iff ordered).mpr
        (Or.inr ⟨path, expected, found, rfl⟩)
  · rintro ⟨digests, sizes⟩ verdict member
    rcases (mem_values_iff ordered).mp member with judged | judged
    · rcases judged with ⟨path, family, expected, found, rfl⟩
      exact isMatch_digest_iff.mpr (digests path family expected found)
    · rcases judged with ⟨path, expected, found, rfl⟩
      exact isMatch_size_iff.mpr (sizes path expected found)

theorem isMatch_presence_iff {known : List String} {path : String} :
    (presence known path).isMatch = true ↔ path ∈ known := by
  rw [presence]
  split
  next present => simp [Verdict.isMatch, present]
  next absent => simp [Verdict.isMatch, absent]

/-- Completeness passes when the expected paths are those of the manifest. -/
theorem all_completeness_iff (ordered : table.Ordered) :
    (completeness manifest table).all Verdict.isMatch = true ↔
      ∀ path, path ∈ manifest.files ↔ table.contains path = true := by
  have known : ∀ path, path ∈ manifest.allPaths ↔ path ∈ manifest.files :=
    fun path => Text.mem_ascending
  simp only [completeness, List.all_append, List.all_map, Bool.and_eq_true,
    List.all_eq_true, Function.comp_apply, isMatch_presence_iff,
    List.mem_filter, Prod.forall, known]
  constructor
  · rintro ⟨present, expected⟩ path
    constructor
    · intro recorded
      by_cases listed : table.contains path = true
      · exact listed
      · have verdict := expected path ⟨recorded, by simpa using listed⟩
        cases verdict
    · intro listed
      rcases (Expectations.contains_iff ordered).mp listed with ⟨facts, here⟩
      exact present path facts here
  · intro same
    constructor
    · intro path facts here
      apply (same path).mpr
      exact (Expectations.contains_iff ordered).mpr ⟨facts, here⟩
    · rintro path ⟨recorded, unlisted⟩
      have listed := (same path).mp recorded
      simp [listed] at unlisted

end Table

end Check

end MediaHash
