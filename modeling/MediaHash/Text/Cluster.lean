import MediaHash.Text.Cluster.Ranges
import MediaHash.Text.Lines
import MediaHash.Text.Width.Joining

/-!
# Clusters of characters

A cluster is what a reader takes for one character: a letter with its marks,
a syllable, a flag, pictures that are joined.  A text is walked from its
front, and what stands at the end of a cluster decides whether the next
character belongs to it.  The clusters of a text are its characters in order
(`flatten_clusters`).
-/

namespace MediaHash.Text

/-! ## Classes -/

/-- What a character is to the characters beside it. -/
inductive ClusterClass where
  | carriageReturn
  | lineFeed
  | control
  /-- A mark on the character before it. -/
  | mark
  | joiner
  /-- A mark with cells of its own. -/
  | spacingMark
  /-- A sign that belongs to the character behind it. -/
  | preceding
  /-- The first consonant of a syllable. -/
  | initial
  | vowel
  /-- The last consonant of a syllable. -/
  | final
  /-- A syllable that ends with its vowel. -/
  | openSyllable
  | closedSyllable
  | flagLetter
  | pictograph
  | other
deriving DecidableEq, Repr

/-- The first consonant of a syllable that is written letter by letter. -/
def isInitial (code : Nat) : Bool :=
  liesIn [(0x1100, 0x115F), (0xA960, 0xA97C)] code

/-- The last consonant of a syllable that is written letter by letter. -/
def isFinal (code : Nat) : Bool :=
  liesIn [(0x11A8, 0x11FF), (0xD7CB, 0xD7FB)] code

/-- A syllable of Hangul that is one character. -/
def isSyllable (code : Nat) : Bool :=
  0xAC00 ≤ code && code ≤ 0xD7A3

/-- A letter without a cell. -/
def isEmptyLetter (code : Nat) : Bool :=
  code == 0x3164 || code == 0xA8FA || code == 0xFFA0

/-- A mark that has a cell unless it is written above or below a letter. -/
def isHalfMark (code : Nat) : Bool :=
  code == 0x2D7F || code == 0xFF9E || code == 0xFF9F

/-- The class of a code point. -/
def ClusterClass.ofCode (code : Nat) : ClusterClass :=
  if 0x20 ≤ code ∧ code ≤ 0x7E then .other
  else if code = 0xD then .carriageReturn
  else if code = 0xA then .lineFeed
  else if code = 0x200D then .joiner
  else if liesIn controlRanges code then .control
  else if liesIn precedingRanges code then .preceding
  else if isInitial code then .initial
  else if liesIn vowelRanges code then .vowel
  else if isFinal code then .final
  else if isSyllable code then
    if (code - 0xAC00) % 28 = 0 then .openSyllable else .closedSyllable
  else if isFlagLetter code then .flagLetter
  else if isSkinTone code || isHalfMark code then .mark
  else if isEmptyLetter code then .other
  else if liesIn emptyRanges code then .mark
  else if liesIn spacingRanges code then .spacingMark
  else if liesIn pictographRanges code then .pictograph
  else .other

/-! ## Ends of clusters -/

/-- How far a conjunct of two consonants has come. -/
inductive Conjunct where
  | absent
  /-- A consonant, and after it only marks. -/
  | begun
  /-- A consonant with a linker, and after it only marks. -/
  | linked
deriving DecidableEq, Repr

/-- What stands at the end of a cluster, as far as it decides what follows. -/
structure ClusterEnd where
  /-- The class of the last character. -/
  last : ClusterClass
  conjunct : Conjunct
  /-- The end is a picture with marks, and perhaps a joiner at the very end. -/
  pictured : Bool
  /-- The end is one letter of a flag, and not two. -/
  halfFlag : Bool
deriving DecidableEq, Repr

namespace ClusterEnd

/-- The end of a cluster of one character. -/
def ofCode (code : Nat) : ClusterEnd :=
  let last := ClusterClass.ofCode code
  { last
    conjunct := if liesIn conjunctRanges code then .begun else .absent
    pictured := last = .pictograph
    halfFlag := last = .flagLetter }

/-- What becomes of a conjunct when a character is added. -/
def conjunctWith (ending : ClusterEnd) (code : Nat) : Conjunct :=
  if liesIn conjunctRanges code then .begun
  else if ending.conjunct = .absent then .absent
  else if liesIn linkerRanges code then .linked
  else if code = 0x200D then ending.conjunct
  else if code ≠ 0x200C ∧ ClusterClass.ofCode code = .mark then
    ending.conjunct
  else .absent

/-- The end of a cluster after one more character. -/
def add (ending : ClusterEnd) (code : Nat) : ClusterEnd :=
  let last := ClusterClass.ofCode code
  { last
    conjunct := ending.conjunctWith code
    pictured := last = .pictograph ∨
      ending.pictured ∧ ending.last ≠ .joiner ∧
        (last = .mark ∨ last = .joiner)
    halfFlag := last = .flagLetter ∧ ¬ ending.halfFlag }

/-- Two classes of which the second belongs to the first in a syllable. -/
def joinsSyllable (last next : ClusterClass) : Bool :=
  match last with
  | .initial =>
      next == .initial || next == .vowel || next == .openSyllable ||
        next == .closedSyllable
  | .vowel | .openSyllable => next == .vowel || next == .final
  | .final | .closedSyllable => next == .final
  | _ => false

/-- The next character belongs to the cluster. -/
def joins (ending : ClusterEnd) (code : Nat) : Bool :=
  let next := ClusterClass.ofCode code
  match ending.last, next with
  | .carriageReturn, _ => next = .lineFeed
  | .lineFeed, _ | .control, _ => false
  | _, .carriageReturn | _, .lineFeed | _, .control => false
  | _, .mark | _, .joiner | _, .spacingMark => true
  | .preceding, _ => true
  | last, _ =>
      joinsSyllable last next ||
        (ending.conjunct == .linked && liesIn conjunctRanges code) ||
        (last == .joiner && ending.pictured && next == .pictograph) ||
        (ending.halfFlag && next == .flagLetter)

end ClusterEnd

/-! ## Clusters -/

/-- What is left of a cluster behind its beginning, then the other clusters. -/
def clustersAfter (ending : ClusterEnd) : List Char → List (List Char)
  | [] => [[]]
  | letter :: rest =>
      let code := letter.toNat
      if ending.joins code then
        extendFirst letter (clustersAfter (ending.add code) rest)
      else [] :: extendFirst letter (clustersAfter (.ofCode code) rest)

/-- The clusters of a text. -/
def clusters : List Char → List (List Char)
  | [] => []
  | letter :: rest =>
      extendFirst letter (clustersAfter (.ofCode letter.toNat) rest)

theorem flatten_extendFirst (letter : Char) (pieces : List (List Char)) :
    (extendFirst letter pieces).flatten = letter :: pieces.flatten := by
  cases pieces with
  | nil => rfl
  | cons first rest => rfl

theorem flatten_clustersAfter (ending : ClusterEnd) (text : List Char) :
    (clustersAfter ending text).flatten = text := by
  induction text generalizing ending with
  | nil => rfl
  | cons letter rest ih =>
      simp only [clustersAfter]
      split
      next => rw [flatten_extendFirst, ih]
      next =>
        rw [List.flatten_cons, flatten_extendFirst, ih, List.nil_append]

/-- No character is lost, and none changes its place. -/
@[simp]
theorem flatten_clusters (text : List Char) :
    (clusters text).flatten = text := by
  cases text with
  | nil => rfl
  | cons letter rest =>
      rw [clusters, flatten_extendFirst, flatten_clustersAfter]

end MediaHash.Text
