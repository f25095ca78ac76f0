import Mathlib.Data.List.Forall2
import Mathlib.Data.List.Sort
import MediaHash.Proofs.Text.Trimming
import MediaHash.Xml.Node

/-!
# Places in a tree

The address of a node says which child to take at every step from the root.
Document order is the order of addresses: an address comes before all that it
begins, and otherwise the first step that differs decides.  What a relation
finds at the nodes of a tree, each node once and in document order, is unique
if the relation is.  The elements of a tree and the text in it are such lists.
-/

namespace MediaHash.Xml.Node

/-- The node at an address. -/
def at? : Node → List Nat → Option Node
  | node, [] => some node
  | .text _, _ :: _ => none
  | .element _ content, index :: rest =>
      content[index]?.bind fun child => child.at? rest

section DocumentOrder

variable {α : Type} (root : Node) (stands : Node → α → Prop)

/-- The items stand at the addresses, which leave out no item of the tree. -/
structure StandAt (addresses : List (List Nat)) (items : List α) :
    Prop where
  ascending : addresses.Pairwise (· < ·)
  complete : ∀ address, address ∈ addresses ↔
    ∃ node item, root.at? address = some node ∧ stands node item
  each : List.Forall₂ (fun address item =>
      ∃ node, root.at? address = some node ∧ stands node item)
    addresses items

/-- What stands at the nodes of a tree, once each and in document order. -/
def InDocumentOrder (items : List α) : Prop :=
  ∃ addresses, root.StandAt stands addresses items

variable {root stands}

theorem eq_of_forall₂_of_functional {β : Type} {relation : β → α → Prop}
    (functional : ∀ place left right,
      relation place left → relation place right → left = right)
    {places : List β} {left right : List α}
    (leftEach : List.Forall₂ relation places left)
    (rightEach : List.Forall₂ relation places right) : left = right := by
  induction leftEach generalizing right with
  | nil =>
      cases rightEach with
      | nil => rfl
  | cons leftHere leftRest inductionHypothesis =>
      cases rightEach with
      | cons rightHere rightRest =>
          rw [functional _ _ _ leftHere rightHere,
            inductionHypothesis rightRest]

/-- A relation that gives one item to a node gives one list to a tree. -/
theorem InDocumentOrder.unique
    (functional : ∀ node left right,
      stands node left → stands node right → left = right)
    {left right : List α} (isLeft : root.InDocumentOrder stands left)
    (isRight : root.InDocumentOrder stands right) : left = right := by
  rcases isLeft with ⟨leftAddresses, leftStand⟩
  rcases isRight with ⟨rightAddresses, rightStand⟩
  have sameAddresses : leftAddresses = rightAddresses :=
    leftStand.ascending.eq_of_mem_iff rightStand.ascending fun address =>
      (leftStand.complete address).trans (rightStand.complete address).symm
  subst sameAddresses
  refine eq_of_forall₂_of_functional ?_ leftStand.each rightStand.each
  rintro address first second ⟨node, found, isFirst⟩
    ⟨other, foundOther, isSecond⟩
  rw [found, Option.some_inj] at foundOther
  subst foundOther
  exact functional node first second isFirst isSecond

end DocumentOrder

/-! ## All places of a tree -/

mutual

/-- The nodes of a tree with their addresses, each before those inside it. -/
def places : Node → List (List Nat × Node)
  | .text written => [([], .text written)]
  | .element name content => ([], .element name content) :: placesAll 0 content

/-- The nodes of a run of trees, the first of which has the given index. -/
def placesAll : Nat → List Node → List (List Nat × Node)
  | _, [] => []
  | index, node :: rest =>
      (places node).map (fun place => (index :: place.1, place.2)) ++
        placesAll (index + 1) rest

end

mutual

theorem mem_places : ∀ (node : Node) (address : List Nat) (inner : Node),
    (address, inner) ∈ node.places ↔ node.at? address = some inner
  | .text written, address, inner => by
      cases address with
      | nil => simp [places, at?, eq_comm]
      | cons index rest => simp [places, at?]
  | .element name content, address, inner => by
      rw [places, List.mem_cons, mem_placesAll content 0]
      cases address with
      | nil => simp [at?, eq_comm]
      | cons index rest => simp [at?]

theorem mem_placesAll : ∀ (content : List Node) (start : Nat)
    (address : List Nat) (inner : Node),
    (address, inner) ∈ placesAll start content ↔
      ∃ offset rest, address = (start + offset) :: rest ∧
        (content[offset]?.bind fun child => child.at? rest) = some inner
  | [], start, address, inner => by simp [placesAll]
  | node :: others, start, address, inner => by
      rw [placesAll, List.mem_append, mem_placesAll others (start + 1)]
      constructor
      · rintro (here | ⟨offset, rest, rfl, found⟩)
        · rcases List.mem_map.mp here with ⟨⟨rest, found⟩, member, same⟩
          cases same
          exact ⟨0, rest, rfl, (mem_places node rest found).mp member⟩
        · refine ⟨offset + 1, rest, ?_, found⟩
          rw [Nat.add_assoc, Nat.add_comm 1]
      · rintro ⟨offset, rest, rfl, found⟩
        cases offset with
        | zero =>
            left
            exact List.mem_map.mpr
              ⟨(rest, inner), (mem_places node rest inner).mpr found, rfl⟩
        | succ offset =>
            right
            refine ⟨offset, rest, ?_, found⟩
            rw [Nat.add_assoc, Nat.add_comm 1]

end

mutual

/-- The places of a tree are in document order. -/
theorem pairwise_places : ∀ node : Node,
    node.places.Pairwise fun left right => left.1 < right.1
  | .text written => List.pairwise_singleton _ _
  | .element name content => by
      rw [places, List.pairwise_cons]
      refine ⟨?_, pairwise_placesAll content 0⟩
      rintro ⟨address, inner⟩ member
      rcases (mem_placesAll content 0 address inner).mp member with
        ⟨offset, rest, rfl, -⟩
      exact List.nil_lt_cons _ _

theorem pairwise_placesAll : ∀ (content : List Node) (start : Nat),
    (placesAll start content).Pairwise fun left right => left.1 < right.1
  | [], start => List.Pairwise.nil
  | node :: others, start => by
      rw [placesAll, List.pairwise_append]
      refine ⟨?_, pairwise_placesAll others (start + 1), ?_⟩
      · rw [List.pairwise_map]
        refine (pairwise_places node).imp fun ascending => ?_
        exact List.cons_lt_cons_iff.mpr (.inr ⟨rfl, ascending⟩)
      · -- Steps into the first tree are smaller than those into the others.
        rintro left isLeft ⟨address, inner⟩ isRight
        rcases List.mem_map.mp isLeft with ⟨place, -, rfl⟩
        rcases (mem_placesAll others (start + 1) address inner).mp isRight
          with ⟨offset, rest, rfl, -⟩
        refine List.cons_lt_cons_iff.mpr (.inl ?_)
        omega

end

/-- What a function picks from the places of a tree is in document order. -/
theorem inDocumentOrder_filterMap {α : Type} {stands : Node → α → Prop}
    {pick : Node → Option α}
    (picks : ∀ node item, stands node item ↔ pick node = some item)
    (root : Node) :
    root.InDocumentOrder stands
      (root.places.filterMap fun place => pick place.2) := by
  let chosen : List (List Nat × α) := root.places.filterMap fun place =>
    (pick place.2).map fun item => (place.1, item)
  have mem_chosen {address : List Nat} {item : α} :
      (address, item) ∈ chosen ↔
        ∃ node, root.at? address = some node ∧ stands node item := by
    simp [chosen, mem_places, picks]
  have items : chosen.map Prod.snd =
      root.places.filterMap fun place => pick place.2 := by
    simp [chosen, List.map_filterMap, Function.comp_def]
  rw [← items]
  refine ⟨chosen.map Prod.fst, ?_, ?_, ?_⟩
  · rw [List.pairwise_map, List.pairwise_filterMap]
    refine (pairwise_places root).imp fun ascending => ?_
    rintro left isLeft right isRight
    rcases Option.map_eq_some_iff.mp isLeft with ⟨-, -, rfl⟩
    rcases Option.map_eq_some_iff.mp isRight with ⟨-, -, rfl⟩
    exact ascending
  · intro address
    simp only [List.mem_map, Prod.exists, exists_and_right, exists_eq_right,
      mem_chosen]
    exact exists_comm
  · rw [List.forall₂_map_left_iff, List.forall₂_map_right_iff,
      List.forall₂_same]
    rintro ⟨address, item⟩ member
    exact mem_chosen.mp member

/-! ## Elements and text -/

mutual

theorem elements_eq_filterMap : ∀ node : Node,
    node.elements = node.places.filterMap fun place => place.2.element?
  | .text written => rfl
  | .element name content => by
      rw [elements, places, elementsAll_eq_filterMap content 0]
      rfl

theorem elementsAll_eq_filterMap : ∀ (content : List Node) (start : Nat),
    elementsAll content =
      (placesAll start content).filterMap fun place => place.2.element?
  | [], start => rfl
  | node :: others, start => by
      rw [elementsAll, placesAll, List.filterMap_append,
        elements_eq_filterMap node,
        elementsAll_eq_filterMap others (start + 1), List.filterMap_map]
      rfl

end

theorem element?_eq_some_iff {node : Node} {name : String}
    {content : List Node} :
    node.element? = some (name, content) ↔ node = .element name content := by
  cases node with
  | text written => simp [element?]
  | element ownName ownContent => simp [element?]

theorem mem_elements_iff {root : Node} {name : String}
    {content : List Node} :
    (name, content) ∈ root.elements ↔
      ∃ address, root.at? address = some (.element name content) := by
  simp [elements_eq_filterMap, List.mem_filterMap, mem_places,
    element?_eq_some_iff]

/-- The child of a node stands one step behind the address of the node. -/
theorem at?_concat {root node : Node} {address : List Nat} {index : Nat}
    (found : root.at? address = some node) :
    root.at? (address ++ [index]) = node.at? [index] := by
  induction address generalizing root with
  | nil =>
      cases found
      rfl
  | cons first rest inductionHypothesis =>
      cases root with
      | text written => cases found
      | element name content =>
          rw [at?, Option.bind_eq_some_iff] at found
          rcases found with ⟨child, isChild, there⟩
          rw [List.cons_append, at?, isChild, Option.bind_some,
            inductionHypothesis there]

theorem at?_singleton (name : String) (content : List Node) (index : Nat) :
    (element name content).at? [index] = content[index]? := by
  rw [at?]
  cases content[index]? with
  | none => rfl
  | some child => simp [at?]

/-- The elements directly in an element of a tree are elements of the tree. -/
theorem mem_elements_of_child {root : Node} {name childName : String}
    {content inner : List Node} (outer : (name, content) ∈ root.elements)
    (child : Node.element childName inner ∈ content) :
    (childName, inner) ∈ root.elements := by
  rcases mem_elements_iff.mp outer with ⟨address, found⟩
  rcases List.mem_iff_getElem?.mp child with ⟨index, place⟩
  refine mem_elements_iff.mpr ⟨address ++ [index], ?_⟩
  rw [at?_concat found, at?_singleton, place]

/-- What a function picks from the elements of a tree is in document order. -/
theorem inDocumentOrder_elements {α : Type} {stands : Node → α → Prop}
    {pick : String × List Node → Option α}
    (picks : ∀ node item, stands node item ↔ ∃ name content,
      node = .element name content ∧ pick (name, content) = some item)
    (root : Node) :
    root.InDocumentOrder stands (root.elements.filterMap pick) := by
  rw [elements_eq_filterMap, List.filterMap_filterMap]
  have picksNode : ∀ node item,
      stands node item ↔ (node.element?.bind pick) = some item := by
    intro node item
    simp [picks, Option.bind_eq_some_iff, element?_eq_some_iff]
  exact inDocumentOrder_filterMap picksNode root

/-- The text that a node is, if it is no element. -/
def text? : Node → Option String
  | .text written => some written
  | .element _ _ => none

mutual

theorem innerText_eq_flatMap : ∀ node : Node,
    node.innerText =
      (node.places.filterMap fun place => place.2.text?).flatMap
        String.toList
  | .text written => (List.flatMap_singleton _ _).symm
  | .element name content => by
      rw [innerText, places, List.filterMap_cons_none rfl,
        innerTextAll_eq_flatMap content 0]

theorem innerTextAll_eq_flatMap : ∀ (content : List Node) (start : Nat),
    innerTextAll content =
      ((placesAll start content).filterMap fun place =>
        place.2.text?).flatMap String.toList
  | [], start => rfl
  | node :: others, start => by
      rw [innerTextAll, placesAll, List.filterMap_append,
        List.flatMap_append, innerText_eq_flatMap node,
        innerTextAll_eq_flatMap others (start + 1), List.filterMap_map]
      rfl

end

/-- The node is this text. -/
def IsText (node : Node) (written : String) : Prop :=
  node = .text written

/-- The text in a node at any depth, without the blanks at its ends. -/
def HasText (node : Node) (text : String) : Prop :=
  ∃ parts : List String, node.InDocumentOrder IsText parts ∧
    Text.Trims text.toList (parts.flatMap String.toList)

theorem isText_iff (node : Node) (written : String) :
    node.IsText written ↔ node.text? = some written := by
  cases node with
  | text own => simp [IsText, text?]
  | element name content => simp [IsText, text?]

theorem hasText_iff {node : Node} {text : String} :
    node.HasText text ↔ String.ofList (Text.trimBlanks node.innerText) = text := by
  have parts := inDocumentOrder_filterMap isText_iff node
  constructor
  · rintro ⟨others, inOrder, trims⟩
    have sameParts := inOrder.unique
      (fun inner left right isLeft isRight => by
        rw [isText_iff] at isLeft isRight
        exact Option.some_inj.mp (isLeft.symm.trans isRight)) parts
    rw [innerText_eq_flatMap, ← sameParts, ← Text.trims_iff.mp trims,
      String.ofList_toList]
  · rintro rfl
    refine ⟨_, parts, ?_⟩
    rw [String.toList_ofList, ← innerText_eq_flatMap]
    exact Text.trimBlanks_trims _

end MediaHash.Xml.Node
