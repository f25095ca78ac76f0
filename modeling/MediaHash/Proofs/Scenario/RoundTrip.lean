import MediaHash.Proofs.Json.Records
import MediaHash.Proofs.Json.Writing
import MediaHash.Scenario.Json

/-!
# Scenarios are read back

A scenario is written as a document that is read as the same scenario, if its
numbers fit their words: 64 bits for sizes, counts and indices of lines, and
32 bits with a sign for the exit status.  Of every scenario that is read, the
numbers fit.

A document may leave out fields, hold other members or be an array.  What is
written of the scenario that it stands for has all fields and no others, and
it is read as that scenario and judged alike.
-/

namespace MediaHash

open Json

/-! ## Parts of scenarios -/

namespace Json

theorem FitsInt32.fitsWord {number : Int} (fits : FitsInt32 number) :
    FitsWord number where
  least := Int.le_trans (by decide) fits.least
  greatest := Int.lt_of_le_of_lt fits.greatest (by decide)

end Json

namespace Scenario

theorem size?_sizeJson {entry : String × Nat}
    (small : entry.2 < UInt64.size) : size? (sizeJson entry) = some entry := by
  have read : nat64? (.nat entry.2) = some entry.2 :=
    nat64?_eq_some_iff.mpr ⟨rfl, small⟩
  rw [sizeJson, size?, read]
  rfl

theorem lt_of_size? {value : Json} {entry : String × Nat}
    (read : size? value = some entry) : entry.2 < UInt64.size := by
  unfold size? at read
  split at read
  next path size =>
    simp only [Option.bind_eq_bind, Option.bind_eq_some_iff,
      Option.some.injEq] at read
    rcases read with ⟨path, -, size, isSize, rfl⟩
    exact (nat64?_eq_some_iff.mp isSize).2
  next => cases read

end Scenario

namespace Check

theorem TagCount.ofJson?_toJson {expected : TagCount}
    (small : expected.count < UInt64.size) :
    TagCount.ofJson? expected.toJson = some expected := by
  have fields : fields? ["path", "tag", "count"] expected.toJson =
      some [some (.string expected.path), some (.string expected.tag),
        some (.nat expected.count)] := fields?_object (by simp)
  have read : nat64? (.nat expected.count) = some expected.count :=
    nat64?_eq_some_iff.mpr ⟨rfl, small⟩
  simp [TagCount.ofJson?, fields, required?, string?, read]

theorem TagCount.count_lt_of_ofJson? {value : Json} {expected : TagCount}
    (read : TagCount.ofJson? value = some expected) :
    expected.count < UInt64.size := by
  simp only [TagCount.ofJson?, Option.bind_eq_bind,
    Option.bind_eq_some_iff] at read
  rcases read with ⟨fields, -, read⟩
  split at read
  next path tag count =>
    simp only [Option.bind_eq_some_iff, Option.some.injEq] at read
    rcases read with ⟨path, -, tag, -, count, isCount, rfl⟩
    rcases required?_eq_some_iff.mp isCount with ⟨written, -, isNumber⟩
    exact (nat64?_eq_some_iff.mp isNumber).2
  next => cases read

theorem LineSubstring.ofJson?_toJson {expected : LineSubstring}
    (small : ∀ index ∈ expected.lines, index < UInt64.size) :
    LineSubstring.ofJson? expected.toJson = some expected := by
  have fields : fields? ["lines", "substring"] expected.toJson =
      some [some (.array (expected.lines.map .nat)),
        some (.string expected.substring)] := fields?_object (by simp)
  have lines : list? nat64? (.array (expected.lines.map .nat)) =
      some expected.lines := by
    apply list?_array_map
    intro index member
    exact nat64?_eq_some_iff.mpr ⟨rfl, small index member⟩
  simp [LineSubstring.ofJson?, fields, required?, string?, lines]

theorem LineSubstring.lt_of_ofJson? {value : Json}
    {expected : LineSubstring}
    (read : LineSubstring.ofJson? value = some expected) :
    ∀ index ∈ expected.lines, index < UInt64.size := by
  simp only [LineSubstring.ofJson?, Option.bind_eq_bind,
    Option.bind_eq_some_iff] at read
  rcases read with ⟨fields, -, read⟩
  split at read
  next lines substring =>
    simp only [Option.bind_eq_some_iff, Option.some.injEq] at read
    rcases read with ⟨lines, areLines, substring, -, rfl⟩
    rcases required?_eq_some_iff.mp areLines with ⟨written, -, isList⟩
    intro index member
    rcases exists_of_mem_list? isList member with ⟨value, isNumber⟩
    exact (nat64?_eq_some_iff.mp isNumber).2
  next => cases read

end Check

/-! ## Kinds of scenarios -/

theorem CrossTool.ofJson?_fields (subject : CrossTool) :
    CrossTool.ofJson? (.object (Scenario.crossTool subject).fields) =
      some subject := by
  have fields : fields? ["reference", "candidate"]
      (.object (Scenario.crossTool subject).fields) =
        some [some (.string subject.reference),
          some (.string subject.candidate)] :=
    fields?_object (by simp [Scenario.fields])
  simp [CrossTool.ofJson?, fields, required?, string?]

/-- Sizes and counts fit words of 64 bits. -/
structure ManifestContents.FitsWords (subject : ManifestContents) :
    Prop where
  sizes : ∀ entry ∈ subject.sizes, entry.2 < UInt64.size
  counts : ∀ expected ∈ subject.tagCounts, expected.count < UInt64.size

namespace ManifestContents

variable {subject : ManifestContents}

theorem ofJson?_fields (fits : subject.FitsWords) :
    ofJson? (.object (Scenario.manifestContents subject).fields) =
      some subject := by
  have fields : fields? ["manifest", "expectations", "sizes", "tag_counts"]
      (.object (Scenario.manifestContents subject).fields) =
        some [some (.string subject.manifest),
          some (.string subject.expectations),
          some (.array (subject.sizes.map Scenario.sizeJson)),
          some (.array (subject.tagCounts.map Check.TagCount.toJson))] :=
    fields?_object (by simp [Scenario.fields])
  have sizes : list? Scenario.size?
      (.array (subject.sizes.map Scenario.sizeJson)) = some subject.sizes :=
    list?_array_map fun entry member =>
      Scenario.size?_sizeJson (fits.sizes entry member)
  have counts : list? Check.TagCount.ofJson?
      (.array (subject.tagCounts.map Check.TagCount.toJson)) =
        some subject.tagCounts :=
    list?_array_map fun expected member =>
      Check.TagCount.ofJson?_toJson (fits.counts expected member)
  simp [ofJson?, fields, required?, defaulted?, string?, sizes, counts]

theorem fitsWords_of_ofJson? {value : Json}
    (read : ofJson? value = some subject) : subject.FitsWords := by
  simp only [ofJson?, Option.bind_eq_bind, Option.bind_eq_some_iff] at read
  rcases read with ⟨fields, -, read⟩
  split at read
  next manifest expectations sizes tagCounts =>
    simp only [Option.bind_eq_some_iff, Option.some.injEq] at read
    rcases read with
      ⟨manifest, -, expectations, -, sizes, areSizes, counts, areCounts, rfl⟩
    constructor
    · intro entry member
      rcases eq_or_exists_of_defaulted? areSizes with rfl | ⟨written, isList⟩
      · cases member
      · rcases exists_of_mem_list? isList member with ⟨value, isSize⟩
        exact Scenario.lt_of_size? isSize
    · intro expected member
      rcases eq_or_exists_of_defaulted? areCounts with rfl | ⟨written, isList⟩
      · cases member
      · rcases exists_of_mem_list? isList member with ⟨value, isCount⟩
        exact Check.TagCount.count_lt_of_ofJson? isCount
  next => cases read

end ManifestContents

namespace SequenceRun

variable {subject : SequenceRun}

theorem ofJson?_fields (fits : FitsInt32 subject.exitCode) :
    ofJson? (.object (Scenario.sequenceRun subject).fields) =
      some subject := by
  have fields : fields? ["spec", "exit_code", "output", "pattern"]
      (.object (Scenario.sequenceRun subject).fields) =
        some [some (.string subject.spec), some (.int subject.exitCode),
          some (.string subject.output),
          some (.ofString? subject.pattern)] :=
    fields?_object (by simp [Scenario.fields])
  have status : int32? (.int subject.exitCode) = some subject.exitCode :=
    int32?_eq_some_iff.mpr ⟨rfl, fits⟩
  have pattern : optionalString? (.ofString? subject.pattern) =
      some subject.pattern := by
    cases subject.pattern with
    | none => rfl
    | some pattern => rfl
  simp [ofJson?, fields, required?, defaulted?, string?, status, pattern]

theorem fitsInt32_of_ofJson? {value : Json}
    (read : ofJson? value = some subject) : FitsInt32 subject.exitCode := by
  simp only [ofJson?, Option.bind_eq_bind, Option.bind_eq_some_iff] at read
  rcases read with ⟨fields, -, read⟩
  split at read
  next spec exitCode output pattern =>
    simp only [Option.bind_eq_some_iff, Option.some.injEq] at read
    rcases read with
      ⟨spec, -, exitCode, isStatus, output, -, pattern, -, rfl⟩
    rcases required?_eq_some_iff.mp isStatus with ⟨written, -, isNumber⟩
    exact (int32?_eq_some_iff.mp isNumber).2
  next => cases read

end SequenceRun

/-- The exit status fits 32 bits and the indices of lines fit 64. -/
structure FailureRun.FitsWords (subject : FailureRun) : Prop where
  status : FitsInt32 subject.exitCode
  indices : ∀ entry ∈ subject.lines, ∀ index ∈ entry.lines,
    index < UInt64.size

namespace FailureRun

variable {subject : FailureRun}

theorem ofJson?_fields (fits : subject.FitsWords) :
    ofJson? (.object (Scenario.sizeOrHashFailure subject).fields) =
      some subject := by
  have fields : fields? ["expected", "exit_code", "output", "path", "lines"]
      (.object (Scenario.sizeOrHashFailure subject).fields) =
        some [some (.string subject.expected.name),
          some (.int subject.exitCode), some (.string subject.output),
          some (.string subject.path),
          some (.array (subject.lines.map Check.LineSubstring.toJson))] :=
    fields?_object (by simp [Scenario.fields])
  have status : int32? (.int subject.exitCode) = some subject.exitCode :=
    int32?_eq_some_iff.mpr ⟨rfl, fits.status⟩
  have lines : list? Check.LineSubstring.ofJson?
      (.array (subject.lines.map Check.LineSubstring.toJson)) =
        some subject.lines :=
    list?_array_map fun entry member =>
      Check.LineSubstring.ofJson?_toJson (fits.indices entry member)
  simp [ofJson?, fields, required?, defaulted?, string?, name?, status, lines]

theorem fitsWords_of_ofJson? {value : Json}
    (read : ofJson? value = some subject) : subject.FitsWords := by
  simp only [ofJson?, Option.bind_eq_bind, Option.bind_eq_some_iff] at read
  rcases read with ⟨fields, -, read⟩
  split at read
  next expected exitCode output path lines =>
    simp only [Option.bind_eq_some_iff, Option.some.injEq] at read
    rcases read with
      ⟨expected, -, exitCode, isStatus, output, -, path, -, lines, areLines,
        rfl⟩
    constructor
    · rcases required?_eq_some_iff.mp isStatus with ⟨written, -, isNumber⟩
      exact (int32?_eq_some_iff.mp isNumber).2
    · intro entry member
      rcases eq_or_exists_of_defaulted? areLines with rfl | ⟨written, isList⟩
      · cases member
      · rcases exists_of_mem_list? isList member with ⟨value, isEntry⟩
        exact Check.LineSubstring.lt_of_ofJson? isEntry
  next => cases read

end FailureRun

/-! ## Scenarios -/

namespace Scenario

/-- Every number of the scenario fits its word. -/
def FitsWords : Scenario → Prop
  | crossTool _ => True
  | manifestContents subject => subject.FitsWords
  | sequenceRun subject => FitsInt32 subject.exitCode
  | sizeOrHashFailure subject => subject.FitsWords

variable {scenario : Scenario}

theorem ofJson?_object {kind : String} {fields : List (String × Json)}
    (others : ∀ field ∈ fields, field.1 ≠ "kind") :
    ofJson? (.object (("kind", .string kind) :: fields)) =
      ofFields? kind (.object fields) := by
  have none : fields.filter (fun field => field.1 == "kind") = [] := by
    rw [List.filter_eq_nil_iff]
    intro field member same
    exact others field member (eq_of_beq same)
  have all : fields.filter (fun field => field.1 != "kind") = fields := by
    rw [List.filter_eq_self]
    intro field member
    exact bne_iff_ne.mpr (others field member)
  simp [ofJson?, field?, valuesOf, none, all]

theorem ofJson?_toJson (fits : scenario.FitsWords) :
    ofJson? scenario.toJson = some scenario := by
  rw [toJson, ofJson?_object]
  · cases scenario with
    | crossTool subject =>
        simp [ofFields?, kind, subject.ofJson?_fields]
    | manifestContents subject =>
        simp [ofFields?, kind, ManifestContents.ofJson?_fields fits]
    | sequenceRun subject =>
        simp [ofFields?, kind, SequenceRun.ofJson?_fields fits]
    | sizeOrHashFailure subject =>
        simp [ofFields?, kind, FailureRun.ofJson?_fields fits]
  · cases scenario <;> simp [fields]

theorem fitsWords_of_ofFields? {kind : String} {fields : Json}
    (read : ofFields? kind fields = some scenario) : scenario.FitsWords := by
  unfold ofFields? at read
  split at read
  next =>
    rcases Option.map_eq_some_iff.mp read with ⟨subject, -, rfl⟩
    exact trivial
  split at read
  next =>
    rcases Option.map_eq_some_iff.mp read with ⟨subject, isSubject, rfl⟩
    exact ManifestContents.fitsWords_of_ofJson? isSubject
  split at read
  next =>
    rcases Option.map_eq_some_iff.mp read with ⟨subject, isSubject, rfl⟩
    exact SequenceRun.fitsInt32_of_ofJson? isSubject
  split at read
  next =>
    rcases Option.map_eq_some_iff.mp read with ⟨subject, isSubject, rfl⟩
    exact FailureRun.fitsWords_of_ofJson? isSubject
  next => cases read

theorem fitsWords_of_ofJson? {value : Json}
    (read : ofJson? value = some scenario) : scenario.FitsWords := by
  unfold ofJson? at read
  split at read
  next members =>
    rw [Option.bind_eq_bind, Option.bind_eq_some_iff] at read
    rcases read with ⟨found, -, read⟩
    split at read
    next kind => exact fitsWords_of_ofFields? read
    next => cases read
  next kind fields => exact fitsWords_of_ofFields? read
  next => cases read

/-! ## Writing -/

theorem writable_sizeJson {levels : Nat} {entry : String × Nat}
    (small : entry.2 < UInt64.size) :
    Writable (levels + 1) (sizeJson entry) := by
  simp [sizeJson, small]

theorem writable_tagCount {levels : Nat} {expected : Check.TagCount}
    (small : expected.count < UInt64.size) :
    Writable (levels + 1) expected.toJson := by
  simp [Check.TagCount.toJson, small]

theorem writable_lineSubstring {levels : Nat}
    {expected : Check.LineSubstring}
    (small : ∀ index ∈ expected.lines, index < UInt64.size) :
    Writable (levels + 2) expected.toJson := by
  simpa [Check.LineSubstring.toJson] using small

theorem writable_ofString? {levels : Nat} (text : Option String) :
    Writable levels (.ofString? text) := by
  cases text with
  | none => exact .null
  | some text => exact .string text

theorem writable_toJson {levels : Nat} (fits : scenario.FitsWords) :
    Writable (levels + 4) scenario.toJson := by
  cases scenario with
  | crossTool subject => simp [toJson, fields]
  | manifestContents subject =>
      have sizes : Writable (levels + 3)
          (.array (subject.sizes.map sizeJson)) :=
        .array (List.forall_mem_map.mpr fun entry member =>
          writable_sizeJson (fits.sizes entry member))
      have counts : Writable (levels + 3)
          (.array (subject.tagCounts.map Check.TagCount.toJson)) :=
        .array (List.forall_mem_map.mpr fun expected member =>
          writable_tagCount (fits.counts expected member))
      simp [toJson, fields, sizes, counts]
  | sequenceRun subject =>
      have status : FitsInt32 subject.exitCode := fits
      simp [toJson, fields, status.fitsWord, writable_ofString?]
  | sizeOrHashFailure subject =>
      have lines : Writable (levels + 3)
          (.array (subject.lines.map Check.LineSubstring.toJson)) :=
        .array (List.forall_mem_map.mpr fun entry member =>
          writable_lineSubstring (fits.indices entry member))
      simp [toJson, fields, fits.status.fitsWord, lines]

theorem parse_write (fits : scenario.FitsWords) :
    Json.parse scenario.write = .ok scenario.toJson :=
  parse_compact (writable_toJson fits)

theorem read_write (fits : scenario.FitsWords) :
    read scenario.write = .ok scenario := by
  rw [read, parse_write fits]
  simp only [ofJson?_toJson fits]

theorem fitsWords_of_read {text : String}
    (isScenario : read text = .ok scenario) : scenario.FitsWords := by
  unfold read at isScenario
  split at isScenario
  next => cases isScenario
  next value =>
    split at isScenario
    next other isOther =>
      rw [← Except.ok.inj isScenario]
      exact fitsWords_of_ofJson? isOther
    next => cases isScenario

/--
A scenario of which the numbers fit is written as a document that is read as
that scenario.  Of a scenario that is read from any document the numbers fit,
so that what is written of it, with all its fields and no others, is read and
judged as that document is.
-/
theorem round_trip :
    (∀ scenario : Scenario, scenario.FitsWords →
      Json.parse scenario.write = .ok scenario.toJson ∧
        read scenario.write = .ok scenario) ∧
    ∀ text scenario, read text = .ok scenario →
      scenario.FitsWords ∧
        Json.parse scenario.write = .ok scenario.toJson ∧
        read scenario.write = read text ∧
        ∀ criteria, (read scenario.write).map (judge · criteria) =
          (read text).map (judge · criteria) := by
  constructor
  · intro scenario fits
    exact ⟨parse_write fits, read_write fits⟩
  · intro text scenario isScenario
    have fits := fitsWords_of_read isScenario
    have same : read scenario.write = read text :=
      (read_write fits).trans isScenario.symm
    refine ⟨fits, parse_write fits, same, ?_⟩
    intro criteria
    rw [same]

/--
Characters that are escaped and one of four bytes, the greatest size and the
least exit status, and a document in which a field is left out, an unknown
one is there and the kind comes last.
-/
theorem round_trip_of_extremes :
    FitsWords (.manifestContents ⟨"\"\\\n\x00\x7f𝄞", "",
        [("a b", 18446744073709551615)], [⟨"/", "", 0⟩]⟩) ∧
      read (write (.manifestContents ⟨"\"\\\n\x00\x7f𝄞", "",
          [("a b", 18446744073709551615)], [⟨"/", "", 0⟩]⟩)) =
        .ok (.manifestContents ⟨"\"\\\n\x00\x7f𝄞", "",
          [("a b", 18446744073709551615)], [⟨"/", "", 0⟩]⟩) ∧
      read ("\x7b\"exit_code\": -2147483648, \"more\": [1.5e3]," ++
          "\"spec\": \"\\ud834\\udd1e\", \"kind\": \"sequence_run\"\x7d") =
        .ok (.sequenceRun ⟨"𝄞", -2147483648, "", none⟩) ∧
      read (write (.sequenceRun ⟨"𝄞", -2147483648, "", none⟩)) =
        .ok (.sequenceRun ⟨"𝄞", -2147483648, "", none⟩) := by
  have fits : FitsWords (.manifestContents ⟨"\"\\\n\x00\x7f𝄞", "",
      [("a b", 18446744073709551615)], [⟨"/", "", 0⟩]⟩) :=
    ⟨by decide, by decide⟩
  have loose : read ("\x7b\"exit_code\": -2147483648, \"more\": [1.5e3]," ++
      "\"spec\": \"\\ud834\\udd1e\", \"kind\": \"sequence_run\"\x7d") =
        .ok (.sequenceRun ⟨"𝄞", -2147483648, "", none⟩) := by
    decide +kernel
  rcases round_trip with ⟨written, respelled⟩
  rcases written _ fits with ⟨-, same⟩
  rcases respelled _ _ loose with ⟨-, -, sameAsLoose, -⟩
  exact ⟨fits, same, loose, sameAsLoose.trans loose⟩

end Scenario

end MediaHash
