import MediaHash.Proofs.Items.Steps
import MediaHash.Proofs.Text.Letters
import MediaHash.Proofs.Xml.Places

/-!
# Names in a tree

A tag is read only if its name is well formed, and building the tree takes
the names of elements from tags alone.  So every element of a tree that was
read has a well-formed name, however deep it lies.

The characters of names leave out all blanks but one, the ogham space mark.
-/

namespace MediaHash.Xml

/-- A text may name an element: a name without a qualifier in front. -/
structure IsBaseName (name : String) : Prop where
  begins : ∃ first ∈ name.toList.head?, isNameStart first = true
  letters : ∀ letter ∈ name.toList, isNameCharacter letter = true
  unqualified : ':' ∉ name.toList

/-! ## The blank among the characters of names -/

/-- The only blank character that a name may hold. -/
def oghamSpaceMark : Char := '\u1680'

/-- The code points of the characters of names. -/
def nameRanges : List (Nat × Nat) :=
  [(0x2D, 0x2E), (0x30, 0x3A), (0x41, 0x5A), (0x5F, 0x5F), (0x61, 0x7A)] ++
    nameStartRanges ++ nameRestRanges

theorem toNat_of_isAlpha {letter : Char} (alpha : letter.isAlpha = true) :
    (65 ≤ letter.toNat ∧ letter.toNat ≤ 90) ∨
      (97 ≤ letter.toNat ∧ letter.toNat ≤ 122) := by
  rcases Bool.or_eq_true_iff.mp alpha with large | small
  · have bounds : 'A' ≤ letter ∧ letter ≤ 'Z' := of_decide_eq_true large
    exact .inl ((Text.isLarge_iff letter).mp bounds)
  · rcases Bool.and_eq_true_iff.mp small with ⟨lowest, highest⟩
    have atLeast : 'a' ≤ letter := of_decide_eq_true lowest
    have atMost : letter ≤ 'z' := of_decide_eq_true highest
    rw [Text.le_iff_toNat_le] at atLeast atMost
    exact .inr ⟨atLeast, atMost⟩

theorem liesIn_nameRanges {letter : Char}
    (inName : isNameCharacter letter = true) :
    Text.liesIn nameRanges letter.toNat = true := by
  rw [Text.liesIn_iff]
  simp only [isNameCharacter, isNameStart, Bool.or_eq_true,
    beq_iff_eq] at inName
  rcases inName with (((start | digit) | rfl) | rfl) | later
  · split at start
    next ascii =>
      simp only [Bool.or_eq_true, beq_iff_eq] at start
      rcases start with (alpha | rfl) | rfl
      · rcases toNat_of_isAlpha alpha with large | small
        · exact ⟨(0x41, 0x5A), by decide, large⟩
        · exact ⟨(0x61, 0x7A), by decide, small⟩
      · exact ⟨(0x30, 0x3A), by decide, by decide, by decide⟩
      · exact ⟨(0x5F, 0x5F), by decide, by decide, by decide⟩
    next =>
      rcases (Text.liesIn_iff _ _).mp start with ⟨range, member, bounds⟩
      exact ⟨range, by simp [nameRanges, member], bounds⟩
  · have bounds : 48 ≤ letter.toNat ∧ letter.toNat ≤ 57 :=
      Char.isDigit_iff_toNat.mp digit
    exact ⟨(0x30, 0x3A), by decide, bounds.1, by omega⟩
  · exact ⟨(0x2D, 0x2E), by decide, by decide, by decide⟩
  · exact ⟨(0x2D, 0x2E), by decide, by decide, by decide⟩
  · rcases (Text.liesIn_iff _ _).mp later with ⟨range, member, bounds⟩
    exact ⟨range, by simp [nameRanges, member], bounds⟩

theorem isBlank_oghamSpaceMark : Text.isBlank oghamSpaceMark = true := by
  decide

theorem eq_oghamSpaceMark_of_isBlank {letter : Char}
    (inName : isNameCharacter letter = true)
    (blank : Text.isBlank letter = true) : letter = oghamSpaceMark := by
  have separate : Text.apart nameRanges
      (Text.blankRanges.erase (0x1680, 0x1680)) = true := by
    decide +kernel
  have notOther := Text.liesIn_eq_false_of_apart separate
    (liesIn_nameRanges inName)
  rw [Text.isBlank_eq_liesIn, Text.liesIn_iff] at blank
  rcases blank with ⟨range, member, lowest, highest⟩
  by_cases isMark : range = (0x1680, 0x1680)
  · subst isMark
    apply Char.toNat_inj.mp
    exact Nat.le_antisymm highest lowest
  · have other : Text.liesIn (Text.blankRanges.erase (0x1680, 0x1680))
        letter.toNat = true :=
      (Text.liesIn_iff _ _).mpr
        ⟨range, (List.mem_erase_of_ne isMark).mpr member, lowest, highest⟩
    rw [other] at notOther
    cases notOther

/-! ## Names of tags -/

theorem isBaseName_of_nameOfParts {qualifier base : List Char} {name : Name}
    (letters : ∀ letter ∈ base, isNameCharacter letter = true)
    (found : nameOfParts qualifier base = .ok name) :
    IsBaseName name.base := by
  rw [nameOfParts] at found
  split at found
  next accepted =>
    rcases accepted with ⟨-, notEmpty, begins, unqualified⟩
    cases found
    rcases List.exists_cons_of_ne_nil notEmpty with ⟨first, rest, rfl⟩
    exact ⟨⟨first, by simp, by simpa using begins⟩, by simpa using letters,
      by simpa using unqualified⟩
  next => cases found

theorem isBaseName_of_readName {input rest : List Char} {name : Name}
    (read : readName input = .ok (name, rest)) : IsBaseName name.base := by
  have letters : ∀ letter ∈ input.takeWhile isNameCharacter,
      isNameCharacter letter = true := List.all_eq_true.mp List.all_takeWhile
  simp only [readName] at read
  split at read
  next qualifier base split =>
    rcases bind_eq_ok_iff.mp read with ⟨found, parts, same⟩
    cases same
    refine isBaseName_of_nameOfParts ?_ parts
    intro letter member
    apply letters
    rw [(Text.splitFirst_eq_some split).1]
    exact List.mem_append_right _ (List.mem_cons_of_mem _ member)
  next =>
    rcases bind_eq_ok_iff.mp read with ⟨found, parts, same⟩
    cases same
    exact isBaseName_of_nameOfParts letters parts

/-- The name of a tag is well formed; what is no tag has no name. -/
def Lexeme.WellNamed : Lexeme → Prop
  | .opening name _ _ => IsBaseName name.base
  | .closing name => IsBaseName name.base
  | .text _ => True
  | .data _ => True
  | .aside => True

theorem wellNamed_of_readOpening {fuel : Nat} {input rest : List Char}
    {lexeme : Lexeme} (read : readOpening fuel input = .ok (lexeme, rest)) :
    lexeme.WellNamed := by
  rcases bind_eq_ok_iff.mp read with ⟨⟨name, afterName⟩, readName, others⟩
  rcases bind_eq_ok_iff.mp others with ⟨_, -, same⟩
  cases same
  exact isBaseName_of_readName readName

theorem wellNamed_of_readClosing {input rest : List Char} {lexeme : Lexeme}
    (read : readClosing input = .ok (lexeme, rest)) : lexeme.WellNamed := by
  rcases bind_eq_ok_iff.mp read with ⟨⟨name, afterName⟩, readName, others⟩
  rcases bind_eq_ok_iff.mp others with ⟨_, -, same⟩
  cases same
  exact isBaseName_of_readName readName

theorem wellNamed_of_readComment {input rest : List Char} {lexeme : Lexeme}
    (read : readComment input = .ok (lexeme, rest)) : lexeme.WellNamed := by
  simp only [readComment] at read
  rcases bind_eq_ok_iff.mp read with ⟨_, -, others⟩
  split at others
  · cases others
  · cases others
    trivial

theorem wellNamed_of_readInstruction {input rest : List Char}
    {lexeme : Lexeme} (read : readInstruction input = .ok (lexeme, rest)) :
    lexeme.WellNamed := by
  rw [readInstruction] at read
  split at read
  · cases read
  · rcases bind_eq_ok_iff.mp read with ⟨_, -, others⟩
    rcases bind_eq_ok_iff.mp others with ⟨_, -, same⟩
    cases same
    trivial

theorem wellNamed_of_readData {input rest : List Char} {lexeme : Lexeme}
    (read : readData input = .ok (lexeme, rest)) : lexeme.WellNamed := by
  rcases bind_eq_ok_iff.mp read with ⟨_, -, same⟩
  cases same
  trivial

theorem wellNamed_of_readText {input rest : List Char} {lexeme : Lexeme}
    (read : readText input = .ok (lexeme, rest)) : lexeme.WellNamed := by
  simp only [readText] at read
  split at read
  · cases read
  · rcases bind_eq_ok_iff.mp read with ⟨_, -, same⟩
    cases same
    trivial

theorem wellNamed_of_readLexeme {fuel : Nat} {input rest : List Char}
    {lexeme : Lexeme} (read : readLexeme fuel input = .ok (lexeme, rest)) :
    lexeme.WellNamed := by
  unfold readLexeme at read
  split at read
  · exact wellNamed_of_readComment read
  · split at read
    · exact wellNamed_of_readData read
    · split at read
      · exact wellNamed_of_readInstruction read
      · exact wellNamed_of_readClosing read
      · cases read
      · exact wellNamed_of_readOpening read
      · exact wellNamed_of_readText read

theorem wellNamed_of_readLexemes {fuel : Nat} {input : List Char}
    {lexemes : List Lexeme} (read : readLexemes fuel input = .ok lexemes) :
    ∀ lexeme ∈ lexemes, lexeme.WellNamed := by
  induction fuel generalizing input lexemes with
  | zero =>
      cases input with
      | nil =>
          cases read
          exact List.forall_mem_nil _
      | cons letter rest => cases read
  | succ fuel inductionHypothesis =>
      cases input with
      | nil =>
          cases read
          exact List.forall_mem_nil _
      | cons letter rest =>
          rcases bind_eq_ok_iff.mp read with ⟨⟨lexeme, left⟩, here, others⟩
          rcases bind_eq_ok_iff.mp others with ⟨later, there, same⟩
          cases same
          exact List.forall_mem_cons.mpr
            ⟨wellNamed_of_readLexeme here, inductionHypothesis there⟩

theorem wellNamed_of_lexemesOf {document : List Char}
    {lexemes : List Lexeme} (read : lexemesOf document = .ok lexemes) :
    ∀ lexeme ∈ lexemes, lexeme.WellNamed := by
  rcases bind_eq_ok_iff.mp read with ⟨body, -, lexemesRead⟩
  exact wellNamed_of_readLexemes lexemesRead

/-! ## Names of elements -/

namespace Node

/-- Every element of the tree has a well-formed name. -/
def WellNamed (node : Node) : Prop :=
  ∀ element ∈ node.elements, IsBaseName element.1

theorem mem_elementsAll_iff {content : List Node}
    {element : String × List Node} :
    element ∈ elementsAll content ↔
      ∃ node ∈ content, element ∈ node.elements := by
  induction content with
  | nil => simp [elementsAll]
  | cons node rest inductionHypothesis =>
      rw [elementsAll, List.mem_append, inductionHypothesis]
      simp

theorem wellNamed_text (written : String) : (text written).WellNamed :=
  List.forall_mem_nil _

theorem wellNamed_element {name : String} {content : List Node}
    (isName : IsBaseName name)
    (inside : ∀ node ∈ content, node.WellNamed) :
    (element name content).WellNamed := by
  rw [WellNamed, elements, List.forall_mem_cons]
  refine ⟨isName, ?_⟩
  intro inner member
  rcases mem_elementsAll_iff.mp member with ⟨node, isNode, found⟩
  exact inside node isNode inner found

end Node

/-- All names met so far are well formed: what `build` keeps at each lexeme. -/
structure NamesKept (stack : List OpenElement) (root : Option Node) :
    Prop where
  opened : ∀ element ∈ stack, IsBaseName element.name.base
  inside : ∀ element ∈ stack, ∀ node ∈ element.content, node.WellNamed
  ended : ∀ node ∈ root, node.WellNamed

namespace NamesKept

variable {stack : List OpenElement} {root : Option Node}

theorem place (kept : NamesKept stack root) {node : Node}
    (wellNamed : node.WellNamed) :
    NamesKept (place node stack root).1 (place node stack root).2 := by
  cases stack with
  | nil =>
      refine ⟨kept.opened, kept.inside, ?_⟩
      rintro other ⟨rfl⟩
      exact wellNamed
  | cons innermost outer =>
      have opened := List.forall_mem_cons.mp kept.opened
      have inside := List.forall_mem_cons.mp kept.inside
      exact ⟨List.forall_mem_cons.mpr opened,
        List.forall_mem_cons.mpr
          ⟨List.forall_mem_cons.mpr ⟨wellNamed, inside.1⟩, inside.2⟩,
        kept.ended⟩

theorem push (kept : NamesKept stack root) {name : Name}
    (isName : IsBaseName name.base) (scope : Scope) :
    NamesKept (⟨name, scope, []⟩ :: stack) root where
  opened := List.forall_mem_cons.mpr ⟨isName, kept.opened⟩
  inside := List.forall_mem_cons.mpr ⟨List.forall_mem_nil _, kept.inside⟩
  ended := kept.ended

end NamesKept

/-- Building keeps names well formed, lexeme by lexeme. -/
theorem wellNamed_of_build {stack : List OpenElement} {root : Option Node}
    {lexemes : List Lexeme} {node : Node} (kept : NamesKept stack root)
    (tags : ∀ lexeme ∈ lexemes, lexeme.WellNamed)
    (built : build stack root lexemes = .ok node) : node.WellNamed := by
  induction lexemes generalizing stack root with
  | nil =>
      unfold build at built
      split at built
      · cases built
        exact kept.ended node rfl
      · cases built
      · cases built
  | cons lexeme rest inductionHypothesis =>
      rcases List.forall_mem_cons.mp tags with ⟨here, later⟩
      cases lexeme with
      | aside => exact inductionHypothesis kept later built
      | text pieces =>
          rw [build] at built
          split at built
          · split at built
            · exact inductionHypothesis kept later built
            · cases built
          · exact inductionHypothesis (kept.place (Node.wellNamed_text _))
              later built
      | data letters =>
          rw [build] at built
          split at built
          · cases built
          · exact inductionHypothesis (kept.place (Node.wellNamed_text _))
              later built
      | opening name attributes closed =>
          rw [build] at built
          split at built
          · cases built
          · rcases bind_eq_ok_iff.mp built with ⟨scope, -, entered⟩
            split at entered
            · exact inductionHypothesis
                (kept.place
                  (Node.wellNamed_element here (List.forall_mem_nil _)))
                later entered
            · exact inductionHypothesis (kept.push here scope) later entered
      | closing name =>
          unfold build at built
          split at built
          next innermost outer =>
            split at built
            · have opened := List.forall_mem_cons.mp kept.opened
              have inside := List.forall_mem_cons.mp kept.inside
              have outside : NamesKept outer root :=
                ⟨opened.2, inside.2, kept.ended⟩
              have element : Node.WellNamed
                  (.element name.base innermost.content.reverse) :=
                Node.wellNamed_element here (by simpa using inside.1)
              exact inductionHypothesis (outside.place element) later built
            · cases built
          next => cases built

/-- Every element of a tree that was read has a well-formed name. -/
theorem wellNamed_of_read {document : String} {root : Node}
    (read : Xml.read document = .ok root) : root.WellNamed := by
  rcases bind_eq_ok_iff.mp read with ⟨lexemes, lexemesRead, built⟩
  exact wellNamed_of_build ⟨List.forall_mem_nil _, List.forall_mem_nil _,
    by simp⟩ (wellNamed_of_lexemesOf lexemesRead) built

end MediaHash.Xml
