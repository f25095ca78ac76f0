import MediaHash.Proofs.Check.Subjects
import MediaHash.Proofs.Encoding.Ordering
import MediaHash.Proofs.Text.Splitting

/-!
# What decides a verdict on a value

A table expects digests and sizes of paths, one value at a time.  Each of
them is decided by the values that are recorded for the same path and fact,
and by nothing else: whether there are any, whether they differ from each
other, and whether the expected value is the only one.

The main statement says that the checks of values give one verdict on every
expected value, in the order of paths and families by bytes, and that it is
the one that the recorded values decide.
-/

namespace MediaHash

open Encoding (writeUtf8)

/-! ## Expected values -/

/-- One value that is expected of a path. -/
inductive ExpectedValue where
  | digest (path family digest : String)
  | size (path : String) (size : Nat)
deriving DecidableEq

namespace ExpectedValue

/-- The path whose value is expected. -/
def path : ExpectedValue → String
  | digest path _ _ => path
  | size path _ => path

/-- What is said of the path: one of its digests or its size. -/
def fact : ExpectedValue → Fact
  | digest _ family _ => .hash family
  | size _ _ => .size

/-- The kind of mismatch if one other value is recorded. -/
def wrongKind : ExpectedValue → MismatchKind
  | digest _ _ _ => .hashMismatch
  | size _ _ => .sizeMismatch

/-- The value as verdicts spell it. -/
def text : ExpectedValue → String
  | digest _ _ value => value
  | size _ value => Text.decimal value

/-- The verdict if the given value is the only one recorded. -/
def compared (item : ExpectedValue) (value : String) : Verdict :=
  if value = item.text then .matched item.fact (some item.path)
  else .mismatch item.fact item.wrongKind (some item.path) item.text value

/-- What all records about the path give for the fact, in document order. -/
def recorded (manifest : Manifest) (matching : TagMatching) :
    ExpectedValue → List String
  | digest path family _ =>
      (((manifest.recordsFor path).flatMap Manifest.Record.fields).filter
        fun field => matching.same field.name family).map Manifest.Field.text
  | size path _ => (manifest.sizesFor path).map Text.decimal

/-- Paths in the order of their bytes, and of one path families, then sizes. -/
inductive Before : ExpectedValue → ExpectedValue → Prop
  | path {left right : ExpectedValue}
      (below : writeUtf8 left.path < writeUtf8 right.path) :
      Before left right
  | family {path leftFamily rightFamily leftDigest rightDigest : String}
      (below : writeUtf8 leftFamily < writeUtf8 rightFamily) :
      Before (.digest path leftFamily leftDigest)
        (.digest path rightFamily rightDigest)
  | size {path family digest : String} {size : Nat} :
      Before (.digest path family digest) (.size path size)

/-- Values that follow each other are about different facts. -/
theorem Before.subject_ne {left right : ExpectedValue}
    (before : Before left right) :
    (left.path, left.fact) ≠ (right.path, right.fact) := by
  intro same
  rcases Prod.mk.inj same with ⟨samePath, sameFact⟩
  cases before with
  | path below =>
      rw [samePath] at below
      exact List.lt_irrefl _ below
  | family below =>
      cases sameFact
      exact List.lt_irrefl _ below
  | size => cases sameFact

end ExpectedValue

namespace ExpectedFacts

/-- The values that are expected of one path. -/
def items (facts : ExpectedFacts) (path : String) : List ExpectedValue :=
  (facts.digests.map fun (family, digest) => .digest path family digest) ++
    facts.size.toList.map (.size path)

theorem path_of_mem_items {facts : ExpectedFacts} {path : String}
    {item : ExpectedValue} (member : item ∈ facts.items path) :
    item.path = path := by
  rcases List.mem_append.mp member with isDigest | isSize
  · rcases List.mem_map.mp isDigest with ⟨entry, -, rfl⟩
    rfl
  · rcases List.mem_map.mp isSize with ⟨size, -, rfl⟩
    rfl

theorem pairwise_items {facts : ExpectedFacts}
    (ascending : Keyed.Ascending facts.digests) (path : String) :
    (facts.items path).Pairwise ExpectedValue.Before := by
  rw [items, List.pairwise_append, List.pairwise_map, List.pairwise_map]
  refine ⟨?_, ?_, ?_⟩
  · exact ascending.imp fun below =>
      .family (Encoding.writeUtf8_lt_iff.mpr below)
  · cases facts.size with
    | none => exact List.Pairwise.nil
    | some size => exact List.pairwise_singleton _ _
  · intro left isDigest right isSize
    rcases List.mem_map.mp isDigest with ⟨entry, -, rfl⟩
    rcases List.mem_map.mp isSize with ⟨size, -, rfl⟩
    exact .size

end ExpectedFacts

namespace Expectations

/-- A value that a look-up in the table finds. -/
def Expects (table : Expectations) : ExpectedValue → Prop
  | .digest path family digest => table.digest? path family = some digest
  | .size path size => table.size? path = some size

/-- The values that a table expects, entry by entry. -/
def items (table : Expectations) : List ExpectedValue :=
  table.paths.flatMap fun (path, facts) => facts.items path

theorem mem_items_iff {table : Expectations} (ordered : table.Ordered)
    {item : ExpectedValue} : item ∈ table.items ↔ table.Expects item := by
  cases item with
  | digest path family digest =>
      rw [Expects, digest?_eq_some_iff ordered]
      simp [items, ExpectedFacts.items]
  | size path size =>
      rw [Expects, size?_eq_some_iff ordered]
      simp [items, ExpectedFacts.items]

theorem pairwise_items {table : Expectations} (ordered : table.Ordered) :
    table.items.Pairwise ExpectedValue.Before := by
  rw [items, List.pairwise_flatMap]
  constructor
  · rintro ⟨path, facts⟩ member
    exact ExpectedFacts.pairwise_items (ordered.families _ member) path
  · refine ordered.paths.imp fun {left right} below => ?_
    intro first isFirst second isSecond
    refine .path (Encoding.writeUtf8_lt_iff.mpr ?_)
    rwa [ExpectedFacts.path_of_mem_items isFirst,
      ExpectedFacts.path_of_mem_items isSecond]

end Expectations

namespace Check

/-! ## One value -/

/-- The verdict on an expected value that recorded values decide. -/
inductive Decided (item : ExpectedValue) (recorded : List String) :
    Verdict → Prop
  | missing (none : ∀ value, value ∉ recorded) :
      Decided item recorded
        (.mismatch item.fact .missingPath (some item.path) item.text "")
  | matched (isRecorded : item.text ∈ recorded)
      (only : ∀ value ∈ recorded, value = item.text) :
      Decided item recorded (.matched item.fact (some item.path))
  | wrong (value : String) (isRecorded : value ∈ recorded)
      (only : ∀ other ∈ recorded, other = value)
      (different : value ≠ item.text) :
      Decided item recorded
        (.mismatch item.fact item.wrongKind (some item.path) item.text value)
  | conflict (left right : String) (isLeft : left ∈ recorded)
      (isRight : right ∈ recorded) (different : left ≠ right) :
      Decided item recorded
        (.mismatch item.fact .duplicateConflictingValue (some item.path)
          item.text (", ".intercalate recorded))

theorem decided_judge (item : ExpectedValue) (recorded : List String) :
    Decided item recorded
      (judge item.fact item.wrongKind item.path item.text recorded) := by
  cases recorded with
  | nil => exact .missing (fun _ => List.not_mem_nil)
  | cons first rest =>
      rw [judge]
      split
      next agreed =>
        have only : ∀ value ∈ first :: rest, value = first :=
          List.forall_mem_cons.mpr ⟨rfl, agree_cons_iff.mp agreed⟩
        split
        next same =>
          subst same
          exact .matched List.mem_cons_self only
        next different =>
          exact .wrong first List.mem_cons_self only different
      next disagreed =>
        simp only [agree_cons_iff, not_forall] at disagreed
        rcases disagreed with ⟨value, later, different⟩
        rw [Text.joinWith_eq_intercalate]
        exact .conflict value first (List.mem_cons_of_mem _ later)
          List.mem_cons_self different

namespace Decided

variable {item : ExpectedValue} {recorded : List String} {verdict : Verdict}
  (decided : Decided item recorded verdict)

include decided

theorem subject_eq : verdict.subject = (some item.path, item.fact) := by
  cases decided <;> rfl

theorem eq_of_none (none : ∀ value, value ∉ recorded) :
    verdict =
      .mismatch item.fact .missingPath (some item.path) item.text "" := by
  cases decided with
  | missing => rfl
  | matched isRecorded => exact absurd isRecorded (none _)
  | wrong _ isRecorded => exact absurd isRecorded (none _)
  | conflict _ _ isLeft => exact absurd isLeft (none _)

theorem eq_of_only {value : String} (isRecorded : value ∈ recorded)
    (only : ∀ other ∈ recorded, other = value) :
    verdict = item.compared value := by
  cases decided with
  | missing none => exact absurd isRecorded (none value)
  | matched textRecorded =>
      rw [ExpectedValue.compared, if_pos (only _ textRecorded).symm]
  | wrong other otherRecorded _ different =>
      cases only other otherRecorded
      rw [ExpectedValue.compared, if_neg different]
  | conflict left right isLeft isRight different =>
      exact absurd ((only _ isLeft).trans (only _ isRight).symm) different

theorem eq_of_two {left right : String} (isLeft : left ∈ recorded)
    (isRight : right ∈ recorded) (different : left ≠ right) :
    verdict =
      .mismatch item.fact .duplicateConflictingValue (some item.path)
        item.text (", ".intercalate recorded) := by
  cases decided with
  | missing none => exact absurd isLeft (none left)
  | matched _ only =>
      exact absurd ((only _ isLeft).trans (only _ isRight).symm) different
  | wrong _ _ only =>
      exact absurd ((only _ isLeft).trans (only _ isRight).symm) different
  | conflict => rfl

/-- The recorded values leave no choice. -/
theorem unique {other : Verdict} (also : Decided item recorded other) :
    verdict = other := by
  cases also with
  | missing none => exact decided.eq_of_none none
  | matched isRecorded only =>
      rw [decided.eq_of_only isRecorded only, ExpectedValue.compared,
        if_pos rfl]
  | wrong value isRecorded only different =>
      rw [decided.eq_of_only isRecorded only, ExpectedValue.compared,
        if_neg different]
  | conflict left right isLeft isRight different =>
      exact decided.eq_of_two isLeft isRight different

end Decided

/-- The verdict on one expected value. -/
def verdictOn (manifest : Manifest) (matching : TagMatching) :
    ExpectedValue → Verdict
  | .digest path family digest =>
      Check.digest manifest matching path family digest
  | .size path size => Check.size manifest path size

/-- Both ways of looking up digests walk the fields of the same records. -/
theorem digestsFor_eq (manifest : Manifest) (matching : TagMatching)
    (path family digest : String) :
    digestsFor manifest matching path family =
      (ExpectedValue.digest path family digest).recorded manifest
        matching := by
  rw [ExpectedValue.recorded, List.filter_flatMap, List.map_flatMap]
  cases matching with
  | caseInsensitive => rfl
  | exact => rfl

theorem verdictOn_eq_judge (manifest : Manifest) (matching : TagMatching)
    (item : ExpectedValue) :
    verdictOn manifest matching item =
      judge item.fact item.wrongKind item.path item.text
        (item.recorded manifest matching) := by
  cases item with
  | digest path family digest =>
      rw [verdictOn, Check.digest, digestsFor_eq _ _ _ _ digest]
      rfl
  | size path size => rfl

theorem decided_verdictOn (manifest : Manifest) (matching : TagMatching)
    (item : ExpectedValue) :
    Decided item (item.recorded manifest matching)
      (verdictOn manifest matching item) := by
  rw [verdictOn_eq_judge]
  exact decided_judge item (item.recorded manifest matching)

/-! ## All values -/

theorem facts_eq_map (manifest : Manifest) (matching : TagMatching)
    (path : String) (expected : ExpectedFacts) :
    facts manifest matching path expected =
      (expected.items path).map (verdictOn manifest matching) := by
  rw [facts, ExpectedFacts.items, List.map_append, List.map_map,
    List.map_map]
  rfl

theorem values_eq_map (manifest : Manifest) (table : Expectations)
    (matching : TagMatching) :
    values manifest table matching =
      table.items.map (verdictOn manifest matching) := by
  rw [values, Expectations.items, List.map_flatMap]
  congr 1
  funext entry
  cases entry with
  | mk path expected => exact facts_eq_map manifest matching path expected

/--
Checking values gives one verdict on each value that the table expects, none
twice and no other.  They stand in the order of the bytes of paths and of
families, the size of a path last, and each is decided by what is recorded.
-/
theorem values_decided_in_order (manifest : Manifest) {table : Expectations}
    (ordered : table.Ordered) (matching : TagMatching) :
    ∃ items : List ExpectedValue,
      items.Pairwise ExpectedValue.Before ∧
      (items.map fun item => (item.path, item.fact)).Nodup ∧
      (∀ item, item ∈ items ↔ table.Expects item) ∧
      List.Forall₂
        (fun item verdict =>
          Decided item (item.recorded manifest matching) verdict)
        items (values manifest table matching) := by
  have inOrder := Expectations.pairwise_items ordered
  refine ⟨table.items, inOrder, ?_,
    fun _ => Expectations.mem_items_iff ordered, ?_⟩
  · exact List.pairwise_map.mpr (inOrder.imp fun before => before.subject_ne)
  · rw [values_eq_map, List.forall₂_map_right_iff, List.forall₂_same]
    exact fun item _ => decided_verdictOn manifest matching item

/-! ## Two values of one digest -/

/-- A digest and a size that are expected of a file. -/
def digestAndSize : Expectations :=
  .demandAll .empty [.size "a" 5, .digest "a" "md5" "00"]

/-- A file that is recorded twice, with different digests. -/
def recordedTwice : Manifest where
  records :=
    [⟨"a", [5], [⟨"file", "a"⟩, ⟨"MD5", "00"⟩, ⟨"size", "5"⟩]⟩,
      ⟨"a", [], [⟨"file", "a"⟩, ⟨"md5", "ff"⟩]⟩]
  files := ["a", "a"]
  creator := none

/-- The expected digest is among the recorded ones, and yet disputed. -/
theorem values_of_recordedTwice :
    digestAndSize.Ordered ∧
    (∃ items : List ExpectedValue,
      items.Pairwise ExpectedValue.Before ∧
      (items.map fun item => (item.path, item.fact)).Nodup ∧
      (∀ item, item ∈ items ↔ digestAndSize.Expects item) ∧
      List.Forall₂
        (fun item verdict => Decided item
          (item.recorded recordedTwice .caseInsensitive) verdict)
        items (values recordedTwice digestAndSize .caseInsensitive)) ∧
    values recordedTwice digestAndSize .caseInsensitive =
      [.mismatch (.hash "md5") .duplicateConflictingValue (some "a") "00"
          "00, ff",
        .matched .size (some "a")] := by
  have ordered : digestAndSize.Ordered :=
    Expectations.ordered_empty.demandAll _
  exact ⟨ordered,
    values_decided_in_order recordedTwice ordered .caseInsensitive, by decide⟩

end Check

end MediaHash
