import MediaHash.Proofs.Check.Passing
import MediaHash.Proofs.Digest.Families
import MediaHash.Proofs.Manifest.Reading

/-!
# Manifests that record claims

The tree of a manifest records claims when it has one group for each of them,
in any order, with one file and one digest, and no file outside these groups.
Sizes and other fields of the groups do no harm.  Such a tree reads as a
manifest, and the digests and the paths of the manifest are exactly those of
the claims.
-/

namespace MediaHash

/-! ## Claims on known families -/

/-- The claim is about a path and a family, in any letter case. -/
structure Claim.IsAbout (claim : Claim) (path : String) (family : HashType) :
    Prop where
  path : claim.path = path
  family : Text.sameLetters claim.family family.tag = true

namespace Manifest

open Xml (Node)

/-! ## Trees and claims -/

/-- The name stands for a family with a digest, in any letter case. -/
def namesDigest (name : String) : Bool :=
  HashType.all.any fun family =>
    family != .null && Text.sameLetters name family.tag

/-- The group states the claim: one file, one digest, no unreadable size. -/
structure Group.States (group : Group) (claim : Claim) : Prop where
  file : (group.fields.filter fun field => field.name == "file") =
    [⟨"file", claim.path⟩]
  digest : ∃ family : HashType, family ≠ .null ∧
    claim.IsAbout claim.path family ∧
    (group.fields.filter fun field => namesDigest field.name) =
      [⟨family.tag, claim.digest⟩]
  sizes : group.Readable

/-- The tree has a group for every claim and no file outside the groups. -/
structure RecordsClaims (root : Node) (claims : List Claim) : Prop where
  groups : ∃ groups order, root.InDocumentOrder IsGroup groups ∧
    order.Perm claims ∧ List.Forall₂ Group.States groups order
  files : ∀ address content,
    root.at? address = some (.element "file" content) →
      ∃ parent index node group, address = parent ++ [index] ∧
        root.at? parent = some node ∧ IsGroup node group

/-- The digests and the paths of the manifest are those of the claims. -/
structure HoldsClaims (manifest : Manifest) (claims : List Claim) :
    Prop where
  digests : ∀ path (family : HashType) value, family ≠ .null →
    (value ∈ manifest.digestsFor path family.tag ↔
      ∃ claim ∈ claims, claim.IsAbout path family ∧ claim.digest = value)
  paths : ∀ path,
    path ∈ manifest.files ↔ ∃ claim ∈ claims, claim.path = path

/-! ## Groups that state claims -/

theorem namesDigest_iff {name : String} :
    namesDigest name = true ↔ ∃ family : HashType, family ≠ .null ∧
      Text.sameLetters name family.tag = true := by
  simp [namesDigest, HashType.mem_all]

namespace Group

variable {group : Group} {claim : Claim}

theorem States.mem_file_iff (states : group.States claim) {text : String} :
    (⟨"file", text⟩ : Field) ∈ group.fields ↔ text = claim.path := by
  have filtered : (⟨"file", text⟩ : Field) ∈
      (group.fields.filter fun field => field.name == "file") ↔
        (⟨"file", text⟩ : Field) ∈ group.fields := by
    simp
  rw [← filtered, states.file]
  simp

/-- A digest of a family in the group is the one that the claim states. -/
theorem States.exists_digest_iff (states : group.States claim)
    {family : HashType} (notNull : family ≠ .null) {value : String} :
    (∃ field ∈ group.fields,
        Text.sameLetters field.name family.tag = true ∧
          field.text = value) ↔
      claim.IsAbout claim.path family ∧ claim.digest = value := by
  rcases states.digest with ⟨stated, statedNotNull, about, only⟩
  constructor
  · rintro ⟨field, member, named, rfl⟩
    have isDigest : field ∈
        group.fields.filter fun field => namesDigest field.name :=
      List.mem_filter.mpr
        ⟨member, namesDigest_iff.mpr ⟨family, notNull, named⟩⟩
    rw [only, List.mem_singleton] at isDigest
    subst isDigest
    have same : stated = family := HashType.eq_of_sameLetters_tag
      ((Text.sameLetters_iff _ _).mpr rfl) named
    subst same
    exact ⟨about, rfl⟩
  · rintro ⟨aboutFamily, rfl⟩
    have same : stated = family :=
      HashType.eq_of_sameLetters_tag about.family aboutFamily.family
    subst same
    have isDigest : (⟨stated.tag, claim.digest⟩ : Field) ∈
        group.fields.filter fun field => namesDigest field.name := by
      rw [only]
      exact List.mem_singleton_self _
    exact ⟨_, List.mem_of_mem_filter isDigest,
      (Text.sameLetters_iff _ _).mpr rfl, rfl⟩

/-- The path of a group is the only one that the group names. -/
theorem States.path_eq {node : Node} (isGroup : IsGroup node group)
    (states : group.States claim) : group.path = claim.path := by
  rcases isGroup with
    ⟨-, -, -, file, ⟨before, after, split, -, isFile⟩, path⟩
  rw [← path, ← states.mem_file_iff, ← isFile, split]
  exact List.mem_append_right _ List.mem_cons_self

end Group

/-! ## Reading such a tree -/

theorem mem_fieldsOf_iff {content : List Node} {field : Field} :
    field ∈ fieldsOf content ↔ ∃ inner,
      Node.element field.name inner ∈ content ∧
        trimmedText inner = field.text := by
  cases field with
  | mk name text =>
      simp [fieldsOf, Node.element?_eq_some_iff]

section Groups

variable {root : Node} {groups : List Group}
  (inOrder : root.InDocumentOrder IsGroup groups)

include inOrder

theorem groups_eq : root.elements.filterMap groupOf? = groups := by
  refine (Node.inDocumentOrder_elements isGroup_iff root).unique ?_ inOrder
  intro node left right isLeft isRight
  rcases (isGroup_iff node left).mp isLeft with ⟨name, content, rfl, found⟩
  rcases (isGroup_iff _ right).mp isRight with
    ⟨otherName, otherContent, same, foundOther⟩
  cases same
  exact Option.some_inj.mp (found.symm.trans foundOther)

theorem mem_groups_iff {group : Group} :
    group ∈ groups ↔ ∃ content, ("hash", content) ∈ root.elements ∧
      IsGroup (.element "hash" content) group := by
  rw [← groups_eq inOrder, List.mem_filterMap]
  constructor
  · rintro ⟨⟨name, content⟩, member, found⟩
    have isGroup : IsGroup (.element name content) group :=
      (isGroup_iff _ group).mpr ⟨name, content, rfl, found⟩
    rcases isGroup with ⟨inner, same, stated⟩
    cases same
    exact ⟨content, member, content, rfl, stated⟩
  · rintro ⟨content, member, isGroup⟩
    rcases (isGroup_iff _ group).mp isGroup with
      ⟨name, inner, same, found⟩
    cases same
    exact ⟨("hash", content), member, found⟩

/-- A tree whose groups have sound sizes reads as a manifest. -/
theorem exists_ofTree (readable : ∀ group ∈ groups, group.Readable) :
    ∃ manifest, ofTree root = .ok manifest ∧
      List.Forall₂ Group.SaidBy groups manifest.records ∧
      manifest.files = (contentsOf root.elements "file").map trimmedText := by
  have records := readRecords_classifies root.elements
  rw [groups_eq inOrder] at records
  rw [ofTree]
  cases read : readRecords root.elements with
  | ok found =>
      rw [read] at records
      exact ⟨_, rfl, records, rfl⟩
  | error fault =>
      rw [read] at records
      rcases records with ⟨group, -, ⟨before, after, split, -, bad⟩, -, -⟩
      refine absurd (readable group ?_) bad
      rw [split]
      exact List.mem_append_right _ List.mem_cons_self

end Groups

/-- The record is about the path of the claim and has its digest only. -/
structure Record.States (record : Record) (claim : Claim) : Prop where
  path : record.path = claim.path
  digest : ∀ (family : HashType) (value : String), family ≠ .null →
    ((∃ field ∈ record.fields,
        Text.sameLetters field.name family.tag = true ∧
          field.text = value) ↔
      claim.IsAbout claim.path family ∧ claim.digest = value)

theorem forall₂_record_states {groups : List Group} {order : List Claim}
    {records : List Record}
    (areGroups : ∀ group ∈ groups, ∃ node, IsGroup node group)
    (states : List.Forall₂ Group.States groups order)
    (said : List.Forall₂ Group.SaidBy groups records) :
    List.Forall₂ Record.States records order := by
  induction states generalizing records with
  | nil =>
      cases said
      exact .nil
  | cons here there inductionHypothesis =>
      rcases List.forall_mem_cons.mp areGroups with ⟨⟨node, isGroup⟩, others⟩
      cases said with
      | cons saidHere saidThere =>
          refine .cons ⟨?_, ?_⟩ (inductionHypothesis others saidThere)
          · rw [saidHere.path, here.path_eq isGroup]
          · intro family value notNull
            rw [saidHere.fields]
            exact here.exists_digest_iff notNull

theorem mem_digestsFor_of_states {manifest : Manifest}
    {order : List Claim}
    (states : List.Forall₂ Record.States manifest.records order)
    {path value : String} {family : HashType} (notNull : family ≠ .null) :
    value ∈ manifest.digestsFor path family.tag ↔
      ∃ claim ∈ order, claim.IsAbout path family ∧ claim.digest = value := by
  have recorded : value ∈ manifest.digestsFor path family.tag ↔
      ∃ record ∈ manifest.recordsFor path, ∃ field ∈ record.fields,
        Text.sameLetters field.name family.tag = true ∧
          field.text = value := by
    show value ∈ Check.digestsFor manifest .caseInsensitive path family.tag ↔ _
    exact Check.mem_digestsFor_iff
  rw [recorded]
  constructor
  · rintro ⟨record, isRecord, digest⟩
    rcases List.mem_filter.mp isRecord with ⟨isRecord, samePath⟩
    rcases exists_of_forall₂_of_mem states isRecord with
      ⟨claim, isClaim, stated⟩
    rw [stated.digest family value notNull, ← stated.path,
      beq_iff_eq.mp samePath] at digest
    exact ⟨claim, isClaim, digest⟩
  · rintro ⟨claim, isClaim, about, digest⟩
    have flipped : List.Forall₂ (flip Record.States) order manifest.records :=
      states.flip
    rcases exists_of_forall₂_of_mem flipped isClaim with
      ⟨record, isRecord, stated⟩
    refine ⟨record, List.mem_filter.mpr ⟨isRecord, ?_⟩, ?_⟩
    · rw [stated.path, about.path]
      exact beq_self_eq_true _
    · rw [stated.digest family value notNull, about.path]
      exact ⟨about, digest⟩

/-! ## The files of such a tree -/

section Files

variable {root : Node} {groups : List Group} {group : Group}
  {claim : Claim}

/-- A file directly in a group has the path of the group's claim. -/
theorem trimmedText_of_file_in_group {node : Node} {parent : List Nat}
    {index : Nat} {content : List Node} (isNode : root.at? parent = some node)
    (isGroup : IsGroup node group) (states : group.States claim)
    (found : root.at? (parent ++ [index]) =
      some (.element "file" content)) :
    trimmedText content = claim.path := by
  rcases isGroup with ⟨inner, rfl, stated, -⟩
  rw [Node.at?_concat isNode, Node.at?_singleton] at found
  rw [← states.mem_file_iff, ← stateFields_iff.mp stated, mem_fieldsOf_iff]
  exact ⟨content, List.mem_of_getElem? found, rfl⟩

variable (inOrder : root.InDocumentOrder IsGroup groups)

include inOrder

theorem mem_groups_of_at? {node : Node} {parent : List Nat}
    (isNode : root.at? parent = some node) (isGroup : IsGroup node group) :
    group ∈ groups := by
  have shape := isGroup
  rcases shape with ⟨inner, rfl, -⟩
  exact (mem_groups_iff inOrder).mpr
    ⟨inner, Node.mem_elements_iff.mpr ⟨parent, isNode⟩, isGroup⟩

/-- The path of a group's claim is the text of a file in the tree. -/
theorem exists_file_of_states (member : group ∈ groups)
    (states : group.States claim) :
    ∃ content, ("file", content) ∈ root.elements ∧
      trimmedText content = claim.path := by
  rcases (mem_groups_iff inOrder).mp member with ⟨inner, isElement, isGroup⟩
  rcases isGroup with ⟨content, same, stated, -⟩
  cases same
  have isFile : (⟨"file", claim.path⟩ : Field) ∈ group.fields :=
    states.mem_file_iff.mpr rfl
  rw [← stateFields_iff.mp stated, mem_fieldsOf_iff] at isFile
  rcases isFile with ⟨file, child, text⟩
  exact ⟨file, Node.mem_elements_of_child isElement child, text⟩

end Files

/-- A tree that records claims reads as a manifest that holds just them. -/
theorem exists_manifest_of_recordsClaims {root : Node} {claims : List Claim}
    (records : RecordsClaims root claims) :
    ∃ manifest, ofTree root = .ok manifest ∧ manifest.HoldsClaims claims := by
  rcases records with ⟨⟨groups, order, inOrder, sameClaims, states⟩, files⟩
  have claimOf {group : Group} (member : group ∈ groups) :
      ∃ claim ∈ claims, group.States claim := by
    rcases exists_of_forall₂_of_mem states member with
      ⟨claim, isClaim, stated⟩
    exact ⟨claim, sameClaims.mem_iff.mp isClaim, stated⟩
  have groupOf {claim : Claim} (member : claim ∈ claims) :
      ∃ group ∈ groups, group.States claim := by
    have flipped : List.Forall₂ (flip Group.States) order groups :=
      states.flip
    exact exists_of_forall₂_of_mem flipped (sameClaims.mem_iff.mpr member)
  have readable : ∀ group ∈ groups, group.Readable := by
    intro group member
    rcases claimOf member with ⟨claim, -, stated⟩
    exact stated.sizes
  have areGroups : ∀ group ∈ groups, ∃ node, IsGroup node group := by
    intro group member
    rcases (mem_groups_iff inOrder).mp member with ⟨content, -, isGroup⟩
    exact ⟨_, isGroup⟩
  rcases exists_ofTree inOrder readable with ⟨manifest, read, said, paths⟩
  refine ⟨manifest, read, ?_, ?_⟩
  · intro path family value notNull
    rw [mem_digestsFor_of_states
      (forall₂_record_states areGroups states said) notNull]
    simp only [sameClaims.mem_iff]
  · intro path
    have isFile : path ∈ manifest.files ↔ ∃ content,
        ("file", content) ∈ root.elements ∧ trimmedText content = path := by
      rw [paths]
      simp [contentsOf]
    rw [isFile]
    constructor
    · rintro ⟨content, member, rfl⟩
      rcases Node.mem_elements_iff.mp member with ⟨address, found⟩
      rcases files address content found with
        ⟨parent, index, node, group, rfl, isNode, isGroup⟩
      rcases claimOf (mem_groups_of_at? inOrder isNode isGroup) with
        ⟨claim, isClaim, stated⟩
      exact ⟨claim, isClaim,
        (trimmedText_of_file_in_group isNode isGroup stated found).symm⟩
    · rintro ⟨claim, isClaim, rfl⟩
      rcases groupOf isClaim with ⟨group, isGroup, stated⟩
      exact exists_file_of_states inOrder isGroup stated

end Manifest

end MediaHash
