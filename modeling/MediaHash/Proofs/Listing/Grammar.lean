import Mathlib.Data.Set.Subsingleton
import MediaHash.Listing.Line
import MediaHash.Proofs.Text.Classes
import MediaHash.Proofs.Text.Pattern
import MediaHash.Proofs.Text.Splitting
import MediaHash.Proofs.Text.Trimming

/-!
# The grammar of a line of a listing

A layout says which stretch of a line is the family, which the path, which
the digest, and where blanks stand around the equals sign.  A line has at
most one well-formed layout: no family holds an opening bracket and nothing
after the path holds a closing one, whatever brackets and equals signs the
path itself holds.

The main statement says that reading a line gives exactly the claim of its
layout, and nothing when there is none.  A greedy search for the pattern of a
claim, which backs off bracket by bracket, meets the same layout first.
-/

namespace MediaHash.Listing

open Text

/-- Where the parts of a claim stand in a line. -/
structure Layout where
  family : List Char
  path : List Char
  /-- The blanks in front of the equals sign. -/
  before : List Char
  /-- The blanks behind the equals sign. -/
  after : List Char
  digest : List Char

namespace Layout

/-- The line that is laid out. -/
def line (layout : Layout) : List Char :=
  layout.family ++ '(' :: (layout.path ++ ')' ::
    (layout.before ++ '=' :: (layout.after ++ layout.digest)))

/-- The claim that the line states. -/
def claim (layout : Layout) : Claim :=
  ⟨String.ofList layout.family, String.ofList layout.path,
    String.ofList layout.digest⟩

/-- Every part consists of the characters that belong there. -/
structure WellFormed (layout : Layout) : Prop where
  family_nonempty : layout.family ≠ []
  family_word : ∀ letter ∈ layout.family, isWord letter = true
  path_oneLine : '\n' ∉ layout.path
  before_blank : ∀ letter ∈ layout.before, isBlank letter = true
  after_blank : ∀ letter ∈ layout.after, isBlank letter = true
  digest_nonempty : layout.digest ≠ []
  digest_hex : ∀ letter ∈ layout.digest, isHexDigit letter = true

/-- The layout is one of the given line. -/
def Spells (layout : Layout) (text : List Char) : Prop :=
  layout.WellFormed ∧ layout.line = text

end Layout

/-! ## Delimiters -/

section Delimiters

variable {layout : Layout}

theorem openingBracket_not_mem_family (wellFormed : layout.WellFormed) :
    '(' ∉ layout.family := by
  intro member
  have word := wellFormed.family_word '(' member
  rw [isWord_openingBracket] at word
  cases word

theorem closingBracket_not_mem_tail (wellFormed : layout.WellFormed) :
    ')' ∉ layout.before ++ '=' :: (layout.after ++ layout.digest) := by
  simp only [List.mem_append, List.mem_cons, not_or]
  refine ⟨?_, by decide, ?_, ?_⟩
  · intro member
    exact absurd (wellFormed.before_blank ')' member) (by decide)
  · intro member
    exact absurd (wellFormed.after_blank ')' member) (by decide)
  · intro member
    exact absurd (wellFormed.digest_hex ')' member) (by decide)

theorem equalsSign_not_mem_before (wellFormed : layout.WellFormed) :
    '=' ∉ layout.before := by
  intro member
  exact absurd (wellFormed.before_blank '=' member) (by decide)

theorem dropWhile_end (wellFormed : layout.WellFormed) :
    (layout.after ++ layout.digest).dropWhile isBlank = layout.digest := by
  rw [List.dropWhile_append_of_pos wellFormed.after_blank]
  apply dropWhile_of_head_visible
  intro letter first
  exact isBlank_eq_false_of_isHexDigit
    (wellFormed.digest_hex letter (List.mem_of_head? first))

end Delimiters

/-! ## Reading -/

theorem readDigest_layout {layout : Layout}
    (wellFormed : layout.WellFormed) :
    readDigest
        (layout.before ++ '=' :: (layout.after ++ layout.digest)) =
      some layout.digest := by
  have start :
      (layout.before ++ '=' :: (layout.after ++ layout.digest)).dropWhile
          isBlank =
        '=' :: (layout.after ++ layout.digest) := by
    rw [List.dropWhile_append_of_pos wellFormed.before_blank]
    rfl
  have hex : layout.digest.all isHexDigit = true :=
    List.all_eq_true.mpr wellFormed.digest_hex
  simp [readDigest, start, dropWhile_end wellFormed, hex,
    wellFormed.digest_nonempty]

theorem readDigest_eq_some {text digest : List Char}
    (read : readDigest text = some digest) :
    ∃ before after,
      text = before ++ '=' :: (after ++ digest) ∧
        (∀ letter ∈ before, isBlank letter = true) ∧
        (∀ letter ∈ after, isBlank letter = true) ∧
        digest ≠ [] ∧ ∀ letter ∈ digest, isHexDigit letter = true := by
  unfold readDigest at read
  split at read
  next rest start =>
    dsimp only at read
    split at read
    next valid =>
      rcases Option.some.inj read with rfl
      refine ⟨text.takeWhile isBlank, rest.takeWhile isBlank, ?_,
        takeWhile_blank text, takeWhile_blank rest, valid.1,
        List.all_eq_true.mp valid.2⟩
      rw [List.takeWhile_append_dropWhile, ← start,
        List.takeWhile_append_dropWhile]
    next => cases read
  next => cases read

/-- The characters of a line give the claim of its layout, if it has one. -/
theorem readCharacters_eq_some_iff {text : List Char} {claim : Claim} :
    readCharacters text = some claim ↔
      ∃ layout : Layout, layout.Spells text ∧ layout.claim = claim := by
  constructor
  · intro read
    simp only [readCharacters, Option.bind_eq_bind,
      Option.bind_eq_some_iff, Prod.exists] at read
    rcases read with
      ⟨family, rest, firstSplit, path, tail, lastSplit, digest, digestRead,
       finish⟩
    rcases splitFirst_eq_some firstSplit with ⟨rfl, -⟩
    rcases splitLast_eq_some lastSplit with rfl
    rcases readDigest_eq_some digestRead with
      ⟨before, after, rfl, beforeBlank, afterBlank, nonempty, hex⟩
    split at finish
    next valid =>
      rcases valid with ⟨familyNonempty, familyWord, oneLine⟩
      refine ⟨⟨family, path, before, after, digest⟩, ⟨?_, rfl⟩,
        Option.some.inj finish⟩
      exact ⟨familyNonempty, List.all_eq_true.mp familyWord, oneLine,
        beforeBlank, afterBlank, nonempty, hex⟩
    next => cases finish
  · rintro ⟨layout, ⟨wellFormed, rfl⟩, rfl⟩
    have familyWord : layout.family.all isWord = true :=
      List.all_eq_true.mpr wellFormed.family_word
    simp only [readCharacters, Layout.line, Option.bind_eq_bind,
      splitFirst_append (openingBracket_not_mem_family wellFormed),
      splitLast_append (closingBracket_not_mem_tail wellFormed),
      readDigest_layout wellFormed, Option.bind_some]
    exact if_pos
      ⟨wellFormed.family_nonempty, familyWord, wellFormed.path_oneLine⟩

/-! ## Uniqueness -/

/-- Well-formed layouts of one line put every part in the same place. -/
theorem Layout.line_injective {left right : Layout}
    (leftWellFormed : left.WellFormed) (rightWellFormed : right.WellFormed)
    (equal : left.line = right.line) : left = right := by
  rcases eq_of_first_split (openingBracket_not_mem_family leftWellFormed)
      (openingBracket_not_mem_family rightWellFormed) equal with
    ⟨familyEqual, restEqual⟩
  rcases eq_of_last_split (closingBracket_not_mem_tail leftWellFormed)
      (closingBracket_not_mem_tail rightWellFormed) restEqual with
    ⟨pathEqual, tailEqual⟩
  rcases eq_of_first_split (equalsSign_not_mem_before leftWellFormed)
      (equalsSign_not_mem_before rightWellFormed) tailEqual with
    ⟨beforeEqual, endEqual⟩
  have digestEqual := congrArg (List.dropWhile isBlank) endEqual
  rw [dropWhile_end leftWellFormed, dropWhile_end rightWellFormed]
    at digestEqual
  rw [digestEqual] at endEqual
  have afterEqual := List.append_cancel_right endEqual
  cases left
  cases right
  simp_all

theorem subsingleton_spells (text : List Char) :
    {layout : Layout | layout.Spells text}.Subsingleton := by
  rintro left ⟨leftWellFormed, leftLine⟩ right ⟨rightWellFormed, rightLine⟩
  exact Layout.line_injective leftWellFormed rightWellFormed
    (leftLine.trans rightLine.symm)

/-! ## The greedy search -/

/-- A word, a path in brackets, and digits behind an equals sign. -/
def claimPattern : List Part :=
  [.repeated 1 isWord, .literal '(', .repeated 0 (· != '\n'), .literal ')',
    .repeated 0 isBlank, .literal '=', .repeated 0 isBlank,
    .repeated 1 isHexDigit]

/-- What each part of the pattern takes in a layout. -/
def Layout.parts (layout : Layout) : List (List Char) :=
  [layout.family, ['('], layout.path, [')'], layout.before, ['='],
    layout.after, layout.digest]

theorem Layout.parts_injective : Function.Injective Layout.parts := by
  intro left right equal
  cases left
  cases right
  simp_all [Layout.parts]

theorem Layout.wellFormed_iff (layout : Layout) :
    layout.WellFormed ↔
      List.Forall₂ Part.Takes claimPattern layout.parts := by
  have nonempty (text : List Char) : 1 ≤ text.length ↔ text ≠ [] := by
    rw [Nat.one_le_iff_ne_zero, List.length_eq_zero_iff.ne]
  have oneLine : (∀ letter ∈ layout.path, (letter != '\n') = true) ↔
      '\n' ∉ layout.path := by
    simp only [bne_iff_ne, ne_eq]
    exact List.forall_mem_ne'
  simp only [claimPattern, Layout.parts, List.forall₂_cons, Part.Takes,
    nonempty, oneLine, Nat.zero_le, true_and, List.forall₂_nil_left_iff,
    and_true]
  constructor
  · rintro ⟨familyNonempty, familyWord, path, before, after,
      digestNonempty, digestHex⟩
    exact ⟨⟨familyNonempty, familyWord⟩, path, before, after,
      digestNonempty, digestHex⟩
  · rintro ⟨⟨familyNonempty, familyWord⟩, path, before, after,
      digestNonempty, digestHex⟩
    exact ⟨familyNonempty, familyWord, path, before, after,
      digestNonempty, digestHex⟩

theorem Layout.flatten_parts (layout : Layout) :
    layout.parts.flatten = layout.line := by
  simp [Layout.parts, Layout.line]

theorem exists_layout_of_takes {way : List (List Char)}
    (takes : List.Forall₂ Part.Takes claimPattern way) :
    ∃ layout : Layout, layout.parts = way := by
  unfold claimPattern at takes
  match way, takes with
  | [family, _, path, _, before, _, after, digest],
      .cons _ (.cons opening (.cons _ (.cons closing (.cons _
        (.cons equals _))))) =>
      refine ⟨⟨family, path, before, after, digest⟩, ?_⟩
      rw [Part.Takes] at opening closing equals
      rw [Layout.parts, opening, closing, equals]

/-- The search for the pattern finds layouts and nothing else. -/
theorem mem_spellings_claimPattern {text : List Char}
    {way : List (List Char)} :
    way ∈ spellings claimPattern text ↔
      ∃ layout : Layout, layout.Spells text ∧ layout.parts = way := by
  rw [mem_spellings_iff]
  constructor
  · rintro ⟨takes, joined⟩
    rcases exists_layout_of_takes takes with ⟨layout, rfl⟩
    exact ⟨layout, ⟨layout.wellFormed_iff.mpr takes,
      layout.flatten_parts.symm.trans joined⟩, rfl⟩
  · rintro ⟨layout, ⟨wellFormed, rfl⟩, rfl⟩
    exact ⟨layout.wellFormed_iff.mp wellFormed, layout.flatten_parts⟩

/-- The way that the search finds first is the layout of the line. -/
theorem head?_spellings_iff {text : List Char} {layout : Layout} :
    (spellings claimPattern text).head? = some layout.parts ↔
      layout.Spells text := by
  constructor
  · intro first
    rcases mem_spellings_claimPattern.mp (List.mem_of_head? first) with
      ⟨found, spells, same⟩
    rwa [Layout.parts_injective same] at spells
  · intro spells
    have found := mem_spellings_claimPattern.mpr ⟨layout, spells, rfl⟩
    cases ways : spellings claimPattern text with
    | nil =>
        rw [ways] at found
        cases found
    | cons first rest =>
        rcases mem_spellings_claimPattern.mp (ways ▸ List.mem_cons_self) with
          ⟨other, otherSpells, rfl⟩
        rw [subsingleton_spells text otherSpells spells]
        rfl

/-! ## The line as a whole -/

/--
Reading a line gives the claim of its only layout, and nothing when it has
none.  The path of a layout runs from the first opening bracket to the last
closing one, and the greedy search for the pattern of a claim finds it.
-/
theorem readLine_grammar (line : String) :
    (∀ claim : Claim,
      readLine line = some claim ↔
        ∃ layout : Layout,
          layout.Spells (dropReturn line.toList) ∧ layout.claim = claim) ∧
    (readLine line = none ↔
      ¬ ∃ layout : Layout, layout.Spells (dropReturn line.toList)) ∧
    {layout : Layout |
      layout.Spells (dropReturn line.toList)}.Subsingleton ∧
    (∀ layout : Layout,
      layout.Spells (dropReturn line.toList) →
        '(' ∉ layout.family ∧
          ')' ∉ layout.before ++ '=' :: (layout.after ++ layout.digest)) ∧
    ∀ layout : Layout,
      layout.Spells (dropReturn line.toList) ↔
        (spellings claimPattern (dropReturn line.toList)).head? =
          some layout.parts := by
  refine ⟨fun claim => readCharacters_eq_some_iff, ?_,
    subsingleton_spells _, ?_, fun layout => head?_spellings_iff.symm⟩
  · rw [Option.eq_none_iff_forall_ne_some]
    constructor
    · rintro absent ⟨layout, spells⟩
      exact absent layout.claim
        (readCharacters_eq_some_iff.mpr ⟨layout, spells, rfl⟩)
    · intro absent claim read
      rcases readCharacters_eq_some_iff.mp read with ⟨layout, spells, -⟩
      exact absent ⟨layout, spells⟩
  · rintro layout ⟨wellFormed, -⟩
    exact ⟨openingBracket_not_mem_family wellFormed,
      closingBracket_not_mem_tail wellFormed⟩

example : readLine "MD5(a)= 00)= ff\r" = some ⟨"MD5", "a)= 00", "ff"⟩ := by
  decide +kernel

end MediaHash.Listing
