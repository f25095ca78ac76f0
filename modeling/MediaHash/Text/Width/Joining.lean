import MediaHash.Text.Width.Ranges

/-!
# Characters that are drawn together

The cells of a character can depend on what stands behind it: a selector
makes a narrow sign a picture, a joiner and a picture make one picture of
two, and some scripts draw two letters as one.  A text is therefore walked
from its end, and each step is told what the characters behind amount to.
-/

namespace MediaHash.Text

/--
The beginning of a ligature: a letter that another letter in front of it may
be drawn together with.  It is `joined` if a joiner stands in between.
-/
inductive Ligature where
  | arabicAlef
  | hebrewLamed (joined : Bool)
  | bugineseYa (joined : Bool)
  /-- The letter ya behind a joiner and the vowel sign i. -/
  | bugineseYaWithI
  | tifinaghConsonant (joined : Bool)
  /-- A consonant behind the sign that joins consonants. -/
  | tifinaghPair
  /-- A tone letter that may follow one of the first four. -/
  | lisuTone
  | orkhonI (joined : Bool)
  /-- A letter that may be written below another. -/
  | khmerLetter
deriving DecidableEq, Repr

/-- What the characters behind a place amount to. -/
inductive Behind where
  | nothing
  | ligature (start : Ligature)
  /-- The vowel sign e, which may be the end of another vowel sign. -/
  | kiratVowelE
  /-- The vowel sign ai, or two signs that spell it. -/
  | kiratVowelAi
  | skinTone
  /-- One letter of a flag. -/
  | flagLetter
  /-- Several letters of flags. -/
  | flagLetters
  | picture
  /-- A joiner with a picture behind it. -/
  | joiner
  /-- The frame of a key with such a joiner behind it. -/
  | joinedKey
  /-- One letter of a flag with such a joiner behind it. -/
  | joinedFlagLetter
  /-- Several letters of flags, an even number or not, before such a joiner. -/
  | joinedFlagLetters (even : Bool)
  /-- Letters that name a region, and the end of the name before a joiner. -/
  | regionLetters (count : Nat)
  /-- Digits that name a region, and the rest of the name before a joiner. -/
  | regionDigits (count : Nat)
deriving DecidableEq, Repr

/-- How a selector wants the character in front of it to be drawn. -/
inductive Style where
  | picture
  | text
  /-- As wide as an ideograph. -/
  | wide
deriving DecidableEq, Repr

/-- What stands behind a place, and the selector right behind it if any. -/
structure Following where
  behind : Behind
  style : Option Style
deriving DecidableEq, Repr

/-- What stands behind a place without a selector. -/
def Following.of (behind : Behind) : Following :=
  ⟨behind, none⟩

/-! ## Classes -/

/-- The selector that a code point is. -/
def selector? (code : Nat) : Option Style :=
  if code = 0xFE0F then some .picture
  else if code = 0xFE0E then some .text
  else if code = 0xFE01 then some .wide
  else none

/-- A letter of a flag. -/
def isFlagLetter (code : Nat) : Bool :=
  0x1F1E6 ≤ code && code ≤ 0x1F1FF

/-- A skin tone. -/
def isSkinTone (code : Nat) : Bool :=
  0x1F3FB ≤ code && code ≤ 0x1F3FF

/-- A letter in the name of a region. -/
def isRegionLetter (code : Nat) : Bool :=
  0xE0061 ≤ code && code ≤ 0xE007A

/-- A digit in the name of a region. -/
def isRegionDigit (code : Nat) : Bool :=
  0xE0030 ≤ code && code ≤ 0xE0039

/-- A picture that can be drawn as text, ideographs in frames apart. -/
def isTextPicture (code : Nat) : Bool :=
  liesIn styledRanges code && liesIn pictureRanges code &&
    !(0x1F200 ≤ code && code ≤ 0x1F2FF)

/-- A quotation mark that can be as wide as an ideograph. -/
def isQuote (code : Nat) : Bool :=
  code == 0x2018 || code == 0x2019 || code == 0x201C || code == 0x201D

/-- A mark without a cell that does not keep letters from joining. -/
def isLigatureMark (code : Nat) : Bool :=
  liesIn [(0x34F, 0x34F), (0x17B4, 0x17B5), (0x180B, 0x180D),
    (0x180F, 0x180F), (0x200D, 0x200D), (0xFE00, 0xFE0F),
    (0xE0100, 0xE01EF)] code

/-- A form of the Arabic letter alef. -/
def isAlef (code : Nat) : Bool :=
  liesIn [(0x622, 0x623), (0x625, 0x625), (0x627, 0x627), (0x671, 0x673),
    (0x675, 0x675), (0x773, 0x774), (0x870, 0x882)] code

/-- A form of the Arabic letter lam. -/
def isLam (code : Nat) : Bool :=
  liesIn [(0x644, 0x644), (0x6B5, 0x6B8), (0x76A, 0x76A), (0x8A6, 0x8A6),
    (0x8C7, 0x8C7)] code

/-- A consonant of Tifinagh. -/
def isTifinagh (code : Nat) : Bool :=
  liesIn [(0x2D31, 0x2D65), (0x2D6F, 0x2D6F)] code

/-- A letter of Khmer that may be written below another. -/
def isKhmerLetter (code : Nat) : Bool :=
  liesIn [(0x1780, 0x1782), (0x1784, 0x1787), (0x1789, 0x178C),
    (0x178E, 0x1793), (0x1795, 0x1798), (0x179B, 0x179D), (0x17A0, 0x17A0),
    (0x17A2, 0x17A2), (0x17A7, 0x17A7), (0x17AB, 0x17AC),
    (0x17AF, 0x17AF)] code

/-- The number of cells that a character takes by itself. -/
def cellsOf (code : Nat) : Nat :=
  if code ≤ 0xA0 then 1
  else if code = 0x17D8 then 3
  else if liesIn emptyRanges code then 0
  else if liesIn wideRanges code then 2
  else 1

/-- What a character with nothing behind it amounts to. -/
def Behind.ofCode (code : Nat) : Behind :=
  if code = 0x5DC then .ligature (.hebrewLamed false)
  else if isAlef code then .ligature .arabicAlef
  else if isKhmerLetter code then .ligature .khmerLetter
  else if code = 0x1A10 then .ligature (.bugineseYa false)
  else if isTifinagh code then .ligature (.tifinaghConsonant false)
  else if code = 0xA4FC ∨ code = 0xA4FD then .ligature .lisuTone
  else if code = 0x10C03 then .ligature (.orkhonI false)
  else if code = 0x16D67 then .kiratVowelE
  else if code = 0x16D68 then .kiratVowelAi
  else if isFlagLetter code then .flagLetter
  else if isSkinTone code then .skinTone
  else if liesIn pictureRanges code then .picture
  else .nothing

/-! ## Ligatures -/

/-- The same beginning with a joiner in front of it. -/
def Ligature.join : Ligature → Ligature
  | .hebrewLamed _ => .hebrewLamed true
  | .bugineseYa _ => .bugineseYa true
  | .tifinaghConsonant _ => .tifinaghConsonant true
  | .orkhonI _ => .orkhonI true
  | start => start

/--
The cells that a character adds in front of the beginning of a ligature, and
what stands behind from then on; none if it does not belong to the ligature.
-/
def Ligature.add? (start : Ligature) (code : Nat) : Option (Int × Behind) :=
  match start with
  | .arabicAlef =>
      if isLam code then some (0, .nothing)
      else if cellsOf code = 0 ∧ liesIn opaqueRanges code = false then
        some (0, .ligature .arabicAlef)
      else none
  | start =>
      if code = 0x200D then some (0, .ligature start.join)
      else if isLigatureMark code then some (0, .ligature start)
      else match start with
        | .hebrewLamed true =>
            if code = 0x5D0 then some (0, .nothing) else none
        | .bugineseYa true =>
            if code = 0x1A17 then some (0, .ligature .bugineseYaWithI)
            else none
        | .bugineseYaWithI =>
            if code = 0x1A15 then some (0, .nothing) else none
        | .tifinaghConsonant joined =>
            if code = 0x2D7F then some (1, .ligature .tifinaghPair)
            else if joined ∧ isTifinagh code then some (0, .nothing)
            else none
        | .tifinaghPair =>
            if isTifinagh code then some (-1, .nothing) else none
        | .lisuTone =>
            if 0xA4F8 ≤ code ∧ code ≤ 0xA4FB then some (0, .nothing)
            else none
        | .orkhonI true =>
            if code = 0x10C32 then some (0, .nothing) else none
        | .khmerLetter =>
            if code = 0x17D2 then some (-1, .nothing) else none
        | _ => none

/-! ## Pictures -/

/--
The cells that a character adds in front of a joiner and a picture, and what
stands behind from then on; none if the joiner does not join it.
-/
def joinPicture? (code : Nat) : Option (Int × Behind) :=
  if code = 0x20E3 then some (0, .joinedKey)
  else if isFlagLetter code then some (1, .joinedFlagLetter)
  else if isSkinTone code then some (0, .skinTone)
  else if code = 0xE007F then some (0, .regionLetters 0)
  else if liesIn pictureRanges code then some (0, .picture)
  else none

/-- A joiner in front of a complete picture. -/
def joiner? (code : Nat) : Option (Int × Behind) :=
  if code = 0x200D then some (0, .joiner) else none

/--
The cells that a character adds in front of what stands behind it, and what
stands behind from then on; none if the two are drawn apart.  A flag before
a joiner gives back the cells that its letters have taken so far.
-/
def Behind.add? (code : Nat) : Behind → Option (Int × Behind)
  | .nothing => none
  | .ligature start => start.add? code
  | .kiratVowelE =>
      if code = 0x16D63 ∨ code = 0x16D69 then some (0, .nothing)
      else if code = 0x16D67 then some (0, .kiratVowelAi)
      else if code = 0x16D68 then some (1, .kiratVowelE)
      else none
  | .kiratVowelAi => if code = 0x16D63 then some (0, .nothing) else none
  | .skinTone =>
      if liesIn tonedRanges code then some (0, .picture) else joiner? code
  | .flagLetter =>
      if isFlagLetter code then some (1, .flagLetters) else none
  | .flagLetters =>
      if isFlagLetter code then some (1, .flagLetters) else joiner? code
  | .picture => joiner? code
  | .joiner => joinPicture? code
  | .joinedKey => none
  | .joinedFlagLetter =>
      if isFlagLetter code then some (-1, .joinedFlagLetters true) else none
  | .joinedFlagLetters even =>
      if isFlagLetter code then
        some (if even then 3 else -1, .joinedFlagLetters !even)
      else joiner? code
  | .regionLetters count =>
      if isRegionLetter code ∧ count < 6 then
        some (0, .regionLetters (count + 1))
      else if isRegionDigit code ∧ count < 5 then some (0, .regionDigits 1)
      else if code = 0x1F3F4 ∧ 3 ≤ count then some (0, .picture)
      else none
  | .regionDigits count =>
      if isRegionDigit code ∧ count < 3 then
        some (0, .regionDigits (count + 1))
      else if code = 0x1F3F4 ∧ count = 3 then some (0, .picture)
      else none

/-! ## Steps -/

/-- What stays behind when a selector has found nothing to select. -/
def Following.released (following : Following) : Behind :=
  match following.style, following.behind with
  | none, behind => behind
  | some _, .ligature start => .ligature start
  | some _, _ => .nothing

/-- What stays in force behind a selector. -/
def Behind.across (style : Style) : Behind → Behind
  | .ligature start => .ligature start
  | .joiner => if style = .picture then .joiner else .nothing
  | .joinedKey => if style = .picture then .joinedKey else .nothing
  | _ => .nothing

/-- The cells that a picture with its selector adds. -/
def Behind.pictureCells : Behind → Int
  | .joiner | .joinedKey => 0
  | _ => 2

/--
The cells that a character adds to those behind it, and what stands behind
from then on.
-/
def addCells (letter : Char) (following : Following) : Int × Following :=
  let code := letter.toNat
  if following.style = some .picture ∧ liesIn styledRanges code = true then
    (following.behind.pictureCells, .of .picture)
  else if code ≤ 0xA0 then (1, .of .nothing)
  else match selector? code with
    | some style => (0, ⟨following.released.across style, some style⟩)
    | none =>
        if following.style = some .text ∧ isTextPicture code = true then
          (1, .of .nothing)
        else if following.style = some .wide ∧ isQuote code = true then
          (2, .of .nothing)
        else match following.released.add? code with
          | some (cells, behind) => (cells, .of behind)
          | none => (cellsOf code, .of (.ofCode code))

end MediaHash.Text
