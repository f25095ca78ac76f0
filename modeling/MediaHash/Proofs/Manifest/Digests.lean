import MediaHash.Proofs.Digest.Families
import MediaHash.Proofs.Manifest.Paths
import MediaHash.Proofs.Manifest.Recording
import MediaHash.Proofs.Xml.Names

/-!
# Digests by family and by tag

A record can be asked for the digests of a family in two ways.  Its typed
digests are those of the fields whose name reads as the family, blanks around
it aside; the lookup of a tag compares whole names.  The two agree on a name
without blanks at its ends.

Of the blank characters just one may stand in a name of a document, the ogham
space mark.  So the two ways agree on a record of a document exactly if none
of its fields has the tag with such marks around it as its name.
-/

namespace MediaHash

/-! ## Names that read as a family -/

/--
The name is the tag of the family, in any letter case, with at least one
ogham space mark in front of it or behind it.
-/
def HashType.IsMarkedTag (family : HashType) (name : String) : Prop :=
  ∃ (front back : Nat) (core : List Char), 0 < front + back ∧
    name.toList = List.replicate front Xml.oghamSpaceMark ++ core ++
      List.replicate back Xml.oghamSpaceMark ∧
    Text.sameLetters (String.ofList core) family.tag = true

namespace HashType

variable {family : HashType} {name : String}

theorem IsMarkedTag.mem (marked : family.IsMarkedTag name) :
    Xml.oghamSpaceMark ∈ name.toList := by
  rcases marked with ⟨front, back, core, marks, split, -⟩
  rcases Nat.add_pos_iff_pos_or_pos.mp marks with inFront | behind
  · simp [split, inFront.ne.symm]
  · simp [split, behind.ne.symm]

/-- A marked tag holds a blank, and a tag holds none. -/
theorem IsMarkedTag.not_sameLetters (marked : family.IsMarkedTag name) :
    ¬ Text.sameLetters name family.tag = true := by
  intro named
  have visible := visible_of_sameLetters_tag named _ marked.mem
  rw [Xml.isBlank_oghamSpaceMark] at visible
  cases visible

theorem ofName?_eq_some_iff_of_isBaseName (isName : Xml.IsBaseName name) :
    ofName? name = some family ↔
      Text.sameLetters name family.tag = true ∨ family.IsMarkedTag name := by
  have isMark {letter : Char} (member : letter ∈ name.toList)
      (blank : Text.isBlank letter = true) : letter = Xml.oghamSpaceMark :=
    Xml.eq_oghamSpaceMark_of_isBlank (isName.letters letter member) blank
  rw [ofName?_eq_some_iff_exists]
  constructor
  · rintro ⟨before, core, after, split, beforeBlank, afterBlank, named⟩
    have marksBefore : before =
        List.replicate before.length Xml.oghamSpaceMark := by
      refine List.eq_replicate_of_mem fun letter member => ?_
      exact isMark (by simp [split, member]) (beforeBlank letter member)
    have marksAfter : after =
        List.replicate after.length Xml.oghamSpaceMark := by
      refine List.eq_replicate_of_mem fun letter member => ?_
      exact isMark (by simp [split, member]) (afterBlank letter member)
    by_cases marks : 0 < before.length + after.length
    · right
      refine ⟨before.length, after.length, core, marks, ?_, named⟩
      rw [← marksBefore, ← marksAfter, split]
    · left
      have noneBefore : before = [] := List.length_eq_zero_iff.mp (by omega)
      have noneAfter : after = [] := List.length_eq_zero_iff.mp (by omega)
      rw [noneBefore, noneAfter, List.nil_append, List.append_nil] at split
      rwa [← split, String.ofList_toList] at named
  · rintro (named | ⟨front, back, core, -, split, named⟩)
    · exact ofName?_eq_some_iff_exists.mp (ofName?_of_sameLetters_tag named)
    · refine ⟨_, core, _, split, ?_, ?_, named⟩
      · intro letter member
        rw [List.eq_of_mem_replicate member, Xml.isBlank_oghamSpaceMark]
      · intro letter member
        rw [List.eq_of_mem_replicate member, Xml.isBlank_oghamSpaceMark]

end HashType

namespace Manifest

open Xml (Node)

/-! ## The two answers of a record -/

namespace Record

variable {record : Record} {family : HashType}

/-- The typed digests hold what the lookup of the tag gives, in its order. -/
structure Covers (record : Record) (family : HashType) : Prop where
  entry : record.valuesOf family.tag ≠ [] →
    ∃ texts, (family, texts) ∈ record.digests
  part : ∀ texts, (family, texts) ∈ record.digests →
    (record.valuesOf family.tag).Sublist texts

/-- The typed digests and the lookup of the tag give the same answer. -/
structure AgreesOn (record : Record) (family : HashType) : Prop where
  entry : (∃ texts, (family, texts) ∈ record.digests) ↔
    record.valuesOf family.tag ≠ []
  same : ∀ texts, (family, texts) ∈ record.digests →
    texts = record.valuesOf family.tag

theorem mem_digests_iff {texts : List String} :
    (family, texts) ∈ record.digests ↔
      texts = record.digestsOf family ∧ texts ≠ [] := by
  rw [digests, List.mem_filter, List.mem_map]
  constructor
  · rintro ⟨⟨other, -, same⟩, notEmpty⟩
    cases same
    exact ⟨rfl, by simpa using notEmpty⟩
  · rintro ⟨rfl, notEmpty⟩
    exact ⟨⟨family, HashType.mem_all family, rfl⟩, by simpa using notEmpty⟩

theorem exists_mem_digests_iff :
    (∃ texts, (family, texts) ∈ record.digests) ↔
      record.digestsOf family ≠ [] := by
  simp [mem_digests_iff]

theorem agreesOn_iff :
    record.AgreesOn family ↔
      record.digestsOf family = record.valuesOf family.tag := by
  constructor
  · rintro ⟨entry, same⟩
    rw [exists_mem_digests_iff, not_iff_not] at entry
    by_cases nothing : record.digestsOf family = []
    · rw [nothing, entry.mp nothing]
    · exact same _ (mem_digests_iff.mpr ⟨rfl, nothing⟩)
  · intro equal
    refine ⟨by rw [exists_mem_digests_iff, equal], ?_⟩
    intro texts member
    rw [(mem_digests_iff.mp member).1, equal]

/-- The lookup of a tag finds no field that the typed digests leave out. -/
theorem sublist_filter_ofName? (fields : List Field) (family : HashType) :
    (fields.filter fun field =>
        Text.sameLetters field.name family.tag).Sublist
      (fields.filter fun field =>
        HashType.ofName? field.name == some family) := by
  apply List.monotone_filter_right
  intro field named
  rw [HashType.ofName?_of_sameLetters_tag named, beq_self_eq_true]

theorem covers (record : Record) (family : HashType) :
    record.Covers family := by
  have part : (record.valuesOf family.tag).Sublist
      (record.digestsOf family) :=
    (sublist_filter_ofName? record.fields family).map Field.text
  refine ⟨?_, ?_⟩
  · intro found
    rw [exists_mem_digests_iff]
    intro nothing
    rw [nothing] at part
    exact found (List.sublist_nil.mp part)
  · intro texts member
    rwa [(mem_digests_iff.mp member).1]

theorem digestsOf_eq_valuesOf_iff
    (named : ∀ field ∈ record.fields, Xml.IsBaseName field.name) :
    record.digestsOf family = record.valuesOf family.tag ↔
      ∀ field ∈ record.fields, ¬ family.IsMarkedTag field.name := by
  have reads_iff {field : Field} (member : field ∈ record.fields) :
      HashType.ofName? field.name = some family ↔
        Text.sameLetters field.name family.tag = true ∨
          family.IsMarkedTag field.name :=
    HashType.ofName?_eq_some_iff_of_isBaseName (named field member)
  constructor
  · intro equal field member marked
    -- The texts do not tell the fields apart, but their number does.
    have counted := congrArg List.length equal
    rw [digestsOf, valuesOf, List.length_map, List.length_map] at counted
    have sublist := sublist_filter_ofName? record.fields family
    have sameFields := sublist.eq_of_length counted.symm
    have found : field ∈ record.fields.filter fun field =>
        HashType.ofName? field.name == some family := by
      rw [List.mem_filter, beq_iff_eq]
      exact ⟨member, (reads_iff member).mpr (.inr marked)⟩
    rw [← sameFields] at found
    exact marked.not_sameLetters (List.mem_filter.mp found).2
  · intro unmarked
    have sameFields : (record.fields.filter fun field =>
        HashType.ofName? field.name == some family) =
        record.fields.filter fun field =>
          Text.sameLetters field.name family.tag := by
      refine List.filter_congr fun field member => ?_
      rw [Bool.eq_iff_iff, beq_iff_eq, reads_iff member]
      exact or_iff_left (unmarked field member)
    rw [digestsOf, sameFields, valuesOf]

end Record

/-! ## Records of a document -/

theorem isBaseName_of_mem_fields {document : String} {manifest : Manifest}
    (read : Manifest.read document = .ok manifest) {record : Record}
    (isRecord : record ∈ manifest.records) :
    ∀ field ∈ record.fields, Xml.IsBaseName field.name := by
  rcases exists_tree_of_read read with ⟨root, parsed, found⟩
  have said := readRecords_classifies root.elements
  rw [readRecords_of_ofTree found] at said
  rcases exists_of_forall₂_of_mem said.flip isRecord with
    ⟨group, isGroup, stated⟩
  rcases List.mem_filterMap.mp isGroup with
    ⟨⟨name, content⟩, isElement, grouped⟩
  have fields : fieldsOf content = group.fields := by
    rcases (isGroup_iff (.element name content) group).mpr
      ⟨name, content, rfl, grouped⟩ with ⟨inner, same, stated, -⟩
    cases same
    exact stateFields_iff.mp stated
  intro field member
  rw [stated.fields, ← fields, mem_fieldsOf_iff] at member
  rcases member with ⟨inner, child, -⟩
  exact Xml.wellNamed_of_read parsed _
    (Node.mem_elements_of_child isElement child)

/--
The typed digests of a record hold what the lookup of the tag gives, and
nothing else exactly if no field of the record has a marked tag as its name.
-/
theorem digests_agree_iff_unmarked {document : String} {manifest : Manifest}
    (read : Manifest.read document = .ok manifest) {record : Record}
    (isRecord : record ∈ manifest.records) (family : HashType) :
    record.Covers family ∧
      (record.AgreesOn family ↔
        ∀ field ∈ record.fields, ¬ family.IsMarkedTag field.name) := by
  refine ⟨record.covers family, ?_⟩
  rw [Record.agreesOn_iff]
  exact Record.digestsOf_eq_valuesOf_iff
    (isBaseName_of_mem_fields read isRecord)

/-- A digest under a tag in large letters. -/
def largeTag : String :=
  "<l><hash><file>a</file><MD5>0</MD5></hash></l>"

/-- The one record of that text, with the tag as it is written. -/
def largeTagRecord : Record where
  path := "a"
  sizes := []
  fields := [⟨"file", "a"⟩, ⟨"MD5", "0"⟩]

theorem digests_of_largeTag :
    Manifest.read largeTag = .ok ⟨[largeTagRecord], ["a"], none⟩ ∧
      largeTagRecord.AgreesOn .md5 ∧
      largeTagRecord.digests = [(.md5, ["0"])] := by
  have read : Manifest.read largeTag =
      .ok ⟨[largeTagRecord], ["a"], none⟩ := by
    decide +kernel
  have unmarked : ∀ field ∈ largeTagRecord.fields,
      ¬ HashType.IsMarkedTag .md5 field.name := by
    have noMark : ∀ field ∈ largeTagRecord.fields,
        Xml.oghamSpaceMark ∉ field.name.toList := by
      decide
    exact fun field member marked => noMark field member marked.mem
  exact ⟨read, (digests_agree_iff_unmarked read List.mem_cons_self
    .md5).2.mpr unmarked, by decide⟩

/-- A digest under a tag that an ogham space mark ends. -/
def markedTag : String :=
  "<hashlist><hash><file>a</file><md5 >00</md5 ></hash></hashlist>"

/-- The one record of that text; the mark is a part of the tag. -/
def markedTagRecord : Record where
  path := "a"
  sizes := []
  fields := [⟨"file", "a"⟩, ⟨"md5 ", "00"⟩]

/-- The digest is among the typed ones, and no lookup of the tag finds it. -/
theorem digests_of_markedTag :
    Manifest.read markedTag = .ok ⟨[markedTagRecord], ["a"], none⟩ ∧
      markedTagRecord.digests = [(.md5, ["00"])] ∧
      markedTagRecord.valuesOf (HashType.tag .md5) = [] ∧
      ¬ markedTagRecord.AgreesOn .md5 := by
  have typed : markedTagRecord.digests = [(.md5, ["00"])] := by decide
  have lookup : markedTagRecord.valuesOf (HashType.tag .md5) = [] := by decide
  refine ⟨by decide +kernel, typed, lookup, ?_⟩
  intro agrees
  refine agrees.entry.mp ⟨["00"], ?_⟩ lookup
  rw [typed]
  exact List.mem_cons_self

end Manifest

end MediaHash
