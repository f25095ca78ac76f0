import MediaHash.Manifest.Basic
import MediaHash.Proofs.Xml.Places

/-!
# What a manifest takes from its document

What a manifest says is stated here on the tree of the document alone: which
elements are groups about a path, which texts their children give, which
elements name a path, and which element speaks of the creator.  Several of
these may be true of one element, since groups may lie inside groups.

The main statement says that a manifest is read exactly if every size that a
group states is a number, that it then says what stands in the tree in
document order, and that otherwise the first such text is blamed.
-/

namespace MediaHash

/-! ## Items of lists -/

section Items

variable {α : Type} (wanted : α → Prop)

/-- The item is the first of the wanted ones. -/
def IsFirst (items : List α) (item : α) : Prop :=
  ∃ before after, items = before ++ item :: after ∧
    (∀ earlier ∈ before, ¬ wanted earlier) ∧ wanted item

/-- The item is the last of the wanted ones. -/
def IsLast (items : List α) (item : α) : Prop :=
  ∃ before after, items = before ++ item :: after ∧ wanted item ∧
    ∀ later ∈ after, ¬ wanted later

variable {wanted}

theorem isFirst_cons_of_wanted {first : α} {rest : List α}
    (here : wanted first) : IsFirst wanted (first :: rest) first :=
  ⟨[], rest, rfl, by simp, here⟩

theorem IsFirst.cons {first : α} {rest : List α} {item : α}
    (notHere : ¬ wanted first) (isFirst : IsFirst wanted rest item) :
    IsFirst wanted (first :: rest) item := by
  rcases isFirst with ⟨before, after, rfl, none, here⟩
  exact ⟨first :: before, after, rfl,
    List.forall_mem_cons.mpr ⟨notHere, none⟩, here⟩

theorem isFirst_iff_find? {test : α → Bool} {items : List α} {item : α} :
    IsFirst (fun item => test item = true) items item ↔
      items.find? test = some item := by
  rw [List.find?_eq_some_iff_append]
  constructor
  · rintro ⟨before, after, split, none, here⟩
    exact ⟨here, before, after, split, by simpa using none⟩
  · rintro ⟨here, before, after, split, none⟩
    exact ⟨before, after, split, by simpa using none, here⟩

theorem isLast_iff_isFirst_reverse {items : List α} {item : α} :
    IsLast wanted items item ↔ IsFirst wanted items.reverse item := by
  constructor
  · rintro ⟨before, after, rfl, here, none⟩
    exact ⟨after.reverse, before.reverse, by simp, by simpa using none, here⟩
  · rintro ⟨before, after, split, none, here⟩
    refine ⟨after.reverse, before.reverse, ?_, here, by simpa using none⟩
    rw [← List.reverse_reverse items, split]
    simp

theorem isLast_iff_getLast?_filter {test : α → Bool} {items : List α}
    {item : α} :
    IsLast (fun item => test item = true) items item ↔
      (items.filter test).getLast? = some item := by
  rw [isLast_iff_isFirst_reverse, isFirst_iff_find?, ← List.head?_filter,
    List.filter_reverse, List.head?_reverse]

theorem exists_of_forall₂_of_mem {β : Type} {relation : α → β → Prop}
    {left : List α} {right : List β}
    (related : List.Forall₂ relation left right) {item : α}
    (member : item ∈ left) : ∃ other ∈ right, relation item other := by
  induction related with
  | nil => cases member
  | cons here there inductionHypothesis =>
      rcases List.mem_cons.mp member with rfl | later
      · exact ⟨_, List.mem_cons_self, here⟩
      · rcases inductionHypothesis later with ⟨other, isOther, holds⟩
        exact ⟨other, List.mem_cons_of_mem _ isOther, holds⟩

end Items

namespace Manifest

open Xml (Node)

/-! ## Sizes -/

/-- Digits that stand for a number of bytes, one that fits 64 bits. -/
structure SizeNumeral (digits : List Char) : Prop where
  nonempty : digits ≠ []
  decimal : ∀ letter ∈ digits, letter.isDigit = true
  small : Text.numeralValue digits ≤ 18446744073709551615

/-- A text states a size, with at most one plus sign in front. -/
inductive StatesSize : List Char → Nat → Prop where
  | plain (digits : List Char) (numeral : SizeNumeral digits) :
      StatesSize digits (Text.numeralValue digits)
  | signed (digits : List Char) (numeral : SizeNumeral digits) :
      StatesSize ('+' :: digits) (Text.numeralValue digits)

theorem sizeNumeral_iff {digits : List Char} :
    SizeNumeral digits ↔
      digits ≠ [] ∧ digits.all Char.isDigit = true ∧
        Text.numeralUpTo largestSize digits ≤ largestSize := by
  rw [Text.numeralUpTo_le_iff, List.all_eq_true]
  constructor
  · rintro ⟨nonempty, decimal, small⟩
    exact ⟨nonempty, decimal, small⟩
  · rintro ⟨nonempty, decimal, small⟩
    exact ⟨nonempty, decimal, small⟩

theorem readDigits_eq_some_iff {digits : List Char} {size : Nat} :
    (if digits ≠ [] ∧ digits.all Char.isDigit = true ∧
        Text.numeralUpTo largestSize digits ≤ largestSize then
      some (Text.numeralUpTo largestSize digits) else none) = some size ↔
    SizeNumeral digits ∧ Text.numeralValue digits = size := by
  by_cases numeral : SizeNumeral digits
  · have value :
        Text.numeralUpTo largestSize digits = Text.numeralValue digits :=
      Text.numeralUpTo_eq numeral.small
    rw [if_pos (sizeNumeral_iff.mp numeral), value, Option.some_inj]
    exact (and_iff_right numeral).symm
  · rw [if_neg (mt sizeNumeral_iff.mpr numeral)]
    simp [numeral]

theorem readUnsigned_eq_some_iff {text : List Char} {size : Nat} :
    Text.readUnsigned largestSize text = some size ↔
      StatesSize text size := by
  by_cases signed : ∃ digits, text = '+' :: digits
  · rcases signed with ⟨digits, rfl⟩
    refine readDigits_eq_some_iff.trans ?_
    constructor
    · rintro ⟨numeral, rfl⟩
      exact .signed digits numeral
    · intro stated
      cases stated with
      | plain _ numeral =>
          exact absurd (numeral.decimal '+' List.mem_cons_self) (by decide)
      | signed _ numeral => exact ⟨numeral, rfl⟩
  · rw [Text.readUnsigned, readDigits_eq_some_iff]
    · constructor
      · rintro ⟨numeral, rfl⟩
        exact .plain text numeral
      · intro stated
        cases stated with
        | plain _ numeral => exact ⟨numeral, rfl⟩
        | signed digits numeral => exact absurd ⟨digits, rfl⟩ signed
    · exact not_exists.mp signed

/-- Some size is stated by the text. -/
def ReadableSize (text : String) : Prop :=
  ∃ size, StatesSize text.toList size

/-! ## Fields -/

/-- The field that an element states. -/
def StatesField (node : Node) (field : Field) : Prop :=
  (∃ content, node = .element field.name content) ∧ node.HasText field.text

/-- The fields that the elements directly among the nodes state, in order. -/
def StateFields (content : List Node) (fields : List Field) : Prop :=
  List.Forall₂ StatesField
    (content.filter fun node => node.element?.isSome) fields

/-- The text of the last field with a name, if there is such a field. -/
inductive LastText (fields : List Field) (name : String) :
    Option String → Prop where
  | none (absent : ∀ field ∈ fields, field.name ≠ name) :
      LastText fields name none
  | some (field : Field)
      (last : IsLast (fun field => field.name = name) fields field) :
      LastText fields name (some field.text)

theorem hasText_element_iff {name : String} {content : List Node}
    {text : String} :
    (Node.element name content).HasText text ↔ trimmedText content = text :=
  Node.hasText_iff

theorem statesField_iff {name : String} {content : List Node}
    {field : Field} :
    StatesField (.element name content) field ↔
      ⟨name, trimmedText content⟩ = field := by
  rw [StatesField, hasText_element_iff]
  cases field with
  | mk fieldName text => simp

theorem stateFields_iff {content : List Node} {fields : List Field} :
    StateFields content fields ↔ fieldsOf content = fields := by
  induction content generalizing fields with
  | nil => simp [StateFields, fieldsOf, eq_comm]
  | cons node rest inductionHypothesis =>
      cases node with
      | text written => exact inductionHypothesis
      | element name inner =>
          show List.Forall₂ StatesField (.element name inner ::
            rest.filter fun node => node.element?.isSome) fields ↔
              ⟨name, trimmedText inner⟩ :: fieldsOf rest = fields
          rw [List.forall₂_cons_left_iff]
          constructor
          · rintro ⟨field, others, here, there, rfl⟩
            rw [statesField_iff.mp here, inductionHypothesis.mp there]
          · rintro rfl
            exact ⟨_, _, statesField_iff.mpr rfl,
              inductionHypothesis.mpr rfl, rfl⟩

theorem lastText_iff {fields : List Field} {name : String}
    {text : Option String} :
    LastText fields name text ↔ lastOf fields name = text := by
  have last_iff {field : Field} :
      IsLast (fun field => field.name = name) fields field ↔
        (fields.filter fun field => field.name == name).getLast? =
          some field := by
    rw [← isLast_iff_getLast?_filter]
    simp only [beq_iff_eq]
  rw [lastOf]
  constructor
  · intro last
    cases last with
    | none absent =>
        rw [List.filter_eq_nil_iff.mpr (by simpa using absent)]
        rfl
    | some field last =>
        rw [last_iff.mp last]
        rfl
  · rintro rfl
    cases found :
        (fields.filter fun field => field.name == name).getLast? with
    | none =>
        rw [List.getLast?_eq_none_iff, List.filter_eq_nil_iff] at found
        exact .none (by simpa using found)
    | some field => exact .some field (last_iff.mpr found)

/-! ## Groups, paths and creators -/

/-- A group about a path, as it stands in the document. -/
structure Group where
  path : String
  fields : List Field

namespace Group

/-- The texts in which the group states sizes. -/
def sizeTexts (group : Group) : List String :=
  (group.fields.filter fun field => field.name == "size").map Field.text

/-- Every size of the group is a number. -/
def Readable (group : Group) : Prop :=
  ∀ text ∈ group.sizeTexts, ReadableSize text

/-- The record says what stands in the group. -/
structure SaidBy (group : Group) (record : Record) : Prop where
  path : record.path = group.path
  fields : record.fields = group.fields
  sizes : List.Forall₂ (fun text size => StatesSize text.toList size)
    group.sizeTexts record.sizes

end Group

/-- The element is a group: its path is the text of its first file. -/
def IsGroup (node : Node) (group : Group) : Prop :=
  ∃ content, node = .element "hash" content ∧
    StateFields content group.fields ∧
    ∃ file, IsFirst (fun field => field.name = "file") group.fields file ∧
      file.text = group.path

/-- The element names a path. -/
def NamesPath (node : Node) (path : String) : Prop :=
  ∃ content, node = .element "file" content ∧ node.HasText path

/-- What fields say about a creator, the last field of a name counting. -/
structure FieldsSay (fields : List Field) (creator : Creator) : Prop where
  name : LastText fields "name" creator.name
  username : LastText fields "username" creator.username
  hostname : LastText fields "hostname" creator.hostname
  tool : LastText fields "tool" creator.tool
  startdate : LastText fields "startdate" creator.startdate
  finishdate : LastText fields "finishdate" creator.finishdate

/-- The element speaks of a creator. -/
def SpeaksOf (node : Node) (creator : Creator) : Prop :=
  ∃ content fields, node = .element "creatorinfo" content ∧
    StateFields content fields ∧ FieldsSay fields creator

/-- The fault names the first size of the first group that has a bad one. -/
def Blames (groups : List Group) (fault : ManifestFault) : Prop :=
  ∃ group value, IsFirst (fun group => ¬ group.Readable) groups group ∧
    IsFirst (fun text => ¬ ReadableSize text) group.sizeTexts value ∧
    fault = .invalidSize group.path value

/-- The group that an element is. -/
def groupOf? (element : String × List Node) : Option Group :=
  if element.1 = "hash" then
    ((fieldsOf element.2).find? fun field => field.name == "file").map
      fun file => ⟨file.text, fieldsOf element.2⟩
  else none

theorem isGroup_iff (node : Node) (group : Group) :
    IsGroup node group ↔ ∃ name content,
      node = .element name content ∧ groupOf? (name, content) = some group := by
  have first_iff {fields : List Field} {file : Field} :
      IsFirst (fun field => field.name = "file") fields file ↔
        fields.find? (fun field => field.name == "file") = some file := by
    rw [← isFirst_iff_find?]
    simp only [beq_iff_eq]
  constructor
  · rintro ⟨content, rfl, fields, file, first, path⟩
    refine ⟨"hash", content, rfl, ?_⟩
    rw [stateFields_iff] at fields
    rw [first_iff, ← fields] at first
    rw [groupOf?, if_pos rfl, first, Option.map_some, path, fields]
  · rintro ⟨name, content, rfl, found⟩
    rw [groupOf?] at found
    split at found
    next isHash =>
      rcases Option.map_eq_some_iff.mp found with ⟨file, first, rfl⟩
      cases isHash
      exact ⟨content, rfl, stateFields_iff.mpr rfl, file,
        first_iff.mpr first, rfl⟩
    next => cases found

/-! ## Reading groups -/

/-- The record of a group, or the fault of its sizes. -/
def readGroup (group : Group) : Except ManifestFault Record := do
  let sizes ← readSizes group.path group.fields
  .ok ⟨group.path, sizes, group.fields⟩

theorem readSizes_classifies (path : String) (fields : List Field) :
    match readSizes path fields with
    | .ok sizes => List.Forall₂ (fun text size => StatesSize text.toList size)
        (Group.mk path fields).sizeTexts sizes
    | .error fault => ∃ value,
        IsFirst (fun text => ¬ ReadableSize text)
          (Group.mk path fields).sizeTexts value ∧
        fault = .invalidSize path value := by
  induction fields with
  | nil => exact .nil
  | cons field rest inductionHypothesis =>
      rw [readSizes]
      by_cases isSize : field.name = "size"
      · have texts : (Group.mk path (field :: rest)).sizeTexts =
            field.text :: (Group.mk path rest).sizeTexts := by
          simp [Group.sizeTexts, isSize]
        rw [if_pos isSize, texts]
        cases read : Text.readUnsigned largestSize field.text.toList with
        | none =>
            refine ⟨field.text, isFirst_cons_of_wanted ?_, rfl⟩
            rintro ⟨size, stated⟩
            rw [readUnsigned_eq_some_iff.mpr stated] at read
            cases read
        | some size =>
            have stated := readUnsigned_eq_some_iff.mp read
            cases others : readSizes path rest with
            | ok sizes =>
                rw [others] at inductionHypothesis
                exact .cons stated inductionHypothesis
            | error fault =>
                rw [others] at inductionHypothesis
                rcases inductionHypothesis with ⟨value, first, blamed⟩
                exact ⟨value, first.cons (not_not_intro ⟨size, stated⟩),
                  blamed⟩
      · have texts : (Group.mk path (field :: rest)).sizeTexts =
            (Group.mk path rest).sizeTexts := by
          simp [Group.sizeTexts, isSize]
        rw [if_neg isSize, texts]
        exact inductionHypothesis

theorem readGroup_classifies (group : Group) :
    match readGroup group with
    | .ok record => group.SaidBy record
    | .error fault => ∃ value,
        IsFirst (fun text => ¬ ReadableSize text) group.sizeTexts value ∧
        fault = .invalidSize group.path value := by
  have sizes := readSizes_classifies group.path group.fields
  rw [readGroup]
  cases read : readSizes group.path group.fields with
  | ok stated =>
      rw [read] at sizes
      exact ⟨rfl, rfl, sizes⟩
  | error fault =>
      rw [read] at sizes
      exact sizes

theorem Group.SaidBy.readable {group : Group} {record : Record}
    (said : group.SaidBy record) : group.Readable := by
  intro text member
  rcases exists_of_forall₂_of_mem said.sizes member with ⟨size, -, stated⟩
  exact ⟨size, stated⟩

/-- An element that is no group is passed. -/
theorem readRecords_cons_of_none {element : String × List Node}
    (found : groupOf? element = none) (rest : List (String × List Node)) :
    readRecords (element :: rest) = readRecords rest := by
  rcases element with ⟨name, content⟩
  rw [groupOf?] at found
  rw [readRecords]
  split at found
  next isHash =>
    rw [Option.map_eq_none_iff] at found
    rw [if_pos isHash, readRecord, found]
    cases readRecords rest with
    | ok records => rfl
    | error fault => rfl
  next isOther => rw [if_neg isOther]

/-- An element that is a group gives a record or the fault of its sizes. -/
theorem readRecords_cons_of_some {element : String × List Node}
    {group : Group} (found : groupOf? element = some group)
    (rest : List (String × List Node)) :
    readRecords (element :: rest) =
      (readGroup group).bind fun entry =>
        (readRecords rest).map (entry :: ·) := by
  rcases element with ⟨name, content⟩
  rw [groupOf?] at found
  rw [readRecords]
  split at found
  next isHash =>
    rcases Option.map_eq_some_iff.mp found with ⟨file, first, rfl⟩
    simp only [if_pos isHash, readRecord, first, readGroup]
    cases readSizes file.text (fieldsOf content) with
    | ok sizes => rfl
    | error fault => rfl
  next => cases found

/-- Every group gives its record, or the first bad size is blamed. -/
theorem readRecords_classifies (elements : List (String × List Node)) :
    match readRecords elements with
    | .ok records =>
        List.Forall₂ Group.SaidBy (elements.filterMap groupOf?) records
    | .error fault => Blames (elements.filterMap groupOf?) fault := by
  induction elements with
  | nil => exact .nil
  | cons element rest inductionHypothesis =>
      cases found : groupOf? element with
      | none =>
          rw [List.filterMap_cons_none found, readRecords_cons_of_none found]
          exact inductionHypothesis
      | some group =>
          rw [List.filterMap_cons_some found, readRecords_cons_of_some found]
          have here := readGroup_classifies group
          cases read : readGroup group with
          | error fault =>
              -- A bad size here comes before all that the rest holds.
              rw [read] at here
              rcases here with ⟨value, first, blamed⟩
              refine ⟨group, value, isFirst_cons_of_wanted ?_, first, blamed⟩
              rcases first with ⟨before, after, texts, -, bad⟩
              intro readable
              exact bad (readable value (by simp [texts]))
          | ok record =>
              rw [read] at here
              cases others : readRecords rest with
              | ok records =>
                  rw [others] at inductionHypothesis
                  exact .cons here inductionHypothesis
              | error fault =>
                  rw [others] at inductionHypothesis
                  rcases inductionHypothesis with
                    ⟨bad, value, first, size, blamed⟩
                  exact ⟨bad, value,
                    first.cons (not_not_intro here.readable), size, blamed⟩

/-! ## Reading the whole tree -/

theorem namesPath_iff (node : Node) (path : String) :
    NamesPath node path ↔ ∃ name content, node = .element name content ∧
      (if (name == "file") = true then some (trimmedText content)
        else none) = some path := by
  constructor
  · rintro ⟨content, rfl, text⟩
    exact ⟨"file", content, rfl,
      congrArg some (hasText_element_iff.mp text)⟩
  · rintro ⟨name, content, rfl, found⟩
    split at found
    next isFile =>
      cases beq_iff_eq.mp isFile
      exact ⟨content, rfl, hasText_element_iff.mpr (Option.some_inj.mp found)⟩
    next => cases found

theorem fieldsSay_iff {content : List Node} {creator : Creator} :
    FieldsSay (fieldsOf content) creator ↔ readCreator content = creator := by
  constructor
  · rintro ⟨name, username, hostname, tool, startdate, finishdate⟩
    rw [lastText_iff] at name username hostname tool startdate finishdate
    rw [readCreator, name, username, hostname, tool, startdate, finishdate]
  · rintro rfl
    exact ⟨lastText_iff.mpr rfl, lastText_iff.mpr rfl, lastText_iff.mpr rfl,
      lastText_iff.mpr rfl, lastText_iff.mpr rfl, lastText_iff.mpr rfl⟩

theorem speaksOf_iff (node : Node) (creator : Creator) :
    SpeaksOf node creator ↔ ∃ name content, node = .element name content ∧
      (if (name == "creatorinfo") = true then some (readCreator content)
        else none) = some creator := by
  constructor
  · rintro ⟨content, fields, rfl, stated, say⟩
    rw [← stateFields_iff.mp stated, fieldsSay_iff] at say
    exact ⟨"creatorinfo", content, rfl, congrArg some say⟩
  · rintro ⟨name, content, rfl, found⟩
    split at found
    next isCreator =>
      cases beq_iff_eq.mp isCreator
      exact ⟨content, fieldsOf content, rfl, stateFields_iff.mpr rfl,
        fieldsSay_iff.mpr (Option.some_inj.mp found)⟩
    next => cases found

/-- What the elements with a name give is in document order. -/
theorem inDocumentOrder_contentsOf {α : Type} {stands : Node → α → Prop}
    {wanted : String} {value : List Node → α}
    (gives : ∀ node item, stands node item ↔ ∃ name content,
      node = .element name content ∧
        (if (name == wanted) = true then some (value content) else none) =
          some item)
    (root : Node) :
    root.InDocumentOrder stands
      ((contentsOf root.elements wanted).map value) := by
  rw [contentsOf, List.map_map, ← List.filterMap_eq_map,
    List.filterMap_filter]
  exact Node.inDocumentOrder_elements gives root

/--
Text that is no document is no manifest.  Of a document, every element that
is a group gives a record, however deep it lies.  The manifest is refused
exactly if some group states a size that is no number, and then the first
such text is blamed.  Otherwise the records say what stands in the groups,
the files are the texts of all elements that name a path, both in document
order, and the last element that speaks of a creator counts.
-/
theorem read_extracts (document : String) :
    match Xml.read document with
    | .error fault => Manifest.read document = .error (.malformed fault.message)
    | .ok root => ∃ groups, root.InDocumentOrder IsGroup groups ∧
        ((∃ fault, Manifest.read document = .error fault) ↔
          ∃ group ∈ groups, ∃ text ∈ group.sizeTexts,
            ∀ size, ¬ StatesSize text.toList size) ∧
        match Manifest.read document with
        | .error fault => Blames groups fault
        | .ok manifest =>
            List.Forall₂ Group.SaidBy groups manifest.records ∧
            root.InDocumentOrder NamesPath manifest.files ∧
            ∃ creators, root.InDocumentOrder SpeaksOf creators ∧
              manifest.creator = creators.getLast? := by
  rw [Manifest.read]
  cases Xml.read document with
  | error fault => rfl
  | ok root =>
      refine ⟨root.elements.filterMap groupOf?,
        Node.inDocumentOrder_elements isGroup_iff root, ?_⟩
      have records := readRecords_classifies root.elements
      simp only [ofTree]
      cases read : readRecords root.elements with
      | error fault =>
          rw [read] at records
          refine ⟨iff_of_true ⟨fault, rfl⟩ ?_, records⟩
          rcases records with
            ⟨group, value, ⟨before, after, groups, -, -⟩,
              ⟨others, rest, texts, -, bad⟩, -⟩
          exact ⟨group, by simp [groups], value, by simp [texts],
            not_exists.mp bad⟩
      | ok found =>
          rw [read] at records
          refine ⟨iff_of_false ?_ ?_, records,
            inDocumentOrder_contentsOf namesPath_iff root, _,
            inDocumentOrder_contentsOf speaksOf_iff root, ?_⟩
          · rintro ⟨fault, refused⟩
            cases refused
          · rintro ⟨group, isGroup, text, isSize, bad⟩
            rcases exists_of_forall₂_of_mem records isGroup with
              ⟨record, -, said⟩
            exact not_exists.mpr bad (said.readable text isSize)
          · exact List.getLast?_map.symm

end Manifest

end MediaHash
