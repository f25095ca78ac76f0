import MediaHash.Proofs.Digest.Families
import MediaHash.Proofs.Digest.Scheduling
import MediaHash.Proofs.Items.Steps
import MediaHash.Proofs.Listing.RoundTrip
import MediaHash.Proofs.Text.Numerals

/-!
# Digests as they are written

A digest is a number of bytes, a word or a double word before it is written.
Each family has its own way to write it: bytes and double words in base
sixteen, two digits to a byte, and words in decimal, with zeros in front.
Every way gives as many digits as the family promises and tells any two
digests apart, those that begin with zeros included.

What is written is made of the digits that a listing admits, so a listing of
hashed files is read back as it was, provided that no path breaks its line.
-/

namespace MediaHash

open Digest

namespace Digest

/-! ## Bytes in base sixteen -/

@[simp]
theorem length_hex (bytes : List UInt8) :
    (hex bytes).length = 2 * bytes.length := by
  induction bytes with
  | nil => rfl
  | cons byte rest inductionHypothesis =>
      rw [hex, List.flatMap_cons, List.length_append, ← hex,
        inductionHypothesis, List.length_cons, Nat.mul_succ, Nat.add_comm]
      rfl

/-- A decimal digit or one of the small letters from a to f. -/
def IsSmallHexDigit (letter : Char) : Prop :=
  letter.isDigit = true ∨ 'a' ≤ letter ∧ letter ≤ 'f'

theorem isSmallHexDigit_hexDigit {value : Nat} (small : value < 16) :
    IsSmallHexDigit (Text.hexDigit value) := by
  revert value
  unfold IsSmallHexDigit
  decide

theorem isSmallHexDigit_of_mem_hex {bytes : List UInt8} {letter : Char}
    (member : letter ∈ hex bytes) : IsSmallHexDigit letter := by
  rcases List.mem_flatMap.mp member with ⟨byte, -, isDigit⟩
  have range := byte.toNat_lt
  rcases List.mem_pair.mp isDigit with rfl | rfl
  · exact isSmallHexDigit_hexDigit (by omega)
  · exact isSmallHexDigit_hexDigit (by omega)

theorem isHexDigit_of_isSmallHexDigit {letter : Char}
    (small : IsSmallHexDigit letter) : Text.isHexDigit letter = true := by
  rcases small with decimal | ⟨lowest, highest⟩
  · exact Text.isHexDigit_of_isDigit decimal
  · rw [Text.isHexDigit, Text.hexValue?]
    split
    next => rfl
    next => rw [if_pos ⟨lowest, highest⟩]; rfl

theorem hexDigit_injective {left right : Nat} (leftSmall : left < 16)
    (rightSmall : right < 16)
    (same : Text.hexDigit left = Text.hexDigit right) : left = right := by
  have value := Text.hexValue?_hexDigit leftSmall
  rw [same, Text.hexValue?_hexDigit rightSmall] at value
  exact (Option.some.inj value).symm

theorem hexByte_injective : Function.Injective hexByte := by
  intro left right same
  have leftRange := left.toNat_lt
  have rightRange := right.toNat_lt
  simp only [hexByte, List.cons.injEq, and_true] at same
  have high := hexDigit_injective (by omega) (by omega) same.1
  have low := hexDigit_injective (by omega) (by omega) same.2
  apply UInt8.toNat_inj.mp
  omega

theorem hex_cons (byte : UInt8) (rest : List UInt8) :
    hex (byte :: rest) = hexByte byte ++ hex rest :=
  List.flatMap_cons

/-- Bytes can be told from their digits. -/
theorem hex_injective : Function.Injective hex := by
  intro left right same
  induction left generalizing right with
  | nil =>
      have lengths := congrArg List.length same
      rw [length_hex, length_hex, List.length_nil] at lengths
      exact (List.eq_nil_of_length_eq_zero (by omega)).symm
  | cons byte rest inductionHypothesis =>
      cases right with
      | nil =>
          have lengths := congrArg List.length same
          rw [length_hex, length_hex, List.length_cons] at lengths
          exact absurd lengths (by simp)
      | cons other others =>
          rw [hex_cons, hex_cons] at same
          rcases List.append_inj same rfl with ⟨here, later⟩
          rw [hexByte_injective here, inductionHypothesis later]

/-! ## Bytes of words -/

theorem bytes32_injective : Function.Injective bytes32 := by
  intro left right same
  simp only [bytes32, List.cons.injEq, and_true] at same
  rcases same with ⟨first, second, third, fourth⟩
  rw [← UInt8.toNat_inj] at first second third fourth
  simp only [UInt32.toNat_toUInt8, UInt32.toNat_shiftRight,
    UInt32.reduceToNat, Nat.reducePow, Nat.reduceMod,
    Nat.shiftRight_eq_div_pow] at first second third fourth
  have leftRange := left.toNat_lt
  have rightRange := right.toNat_lt
  apply UInt32.toNat_inj.mp
  omega

@[simp]
theorem length_bytesOf64 (word : UInt64) : (bytesOf64 word).length = 8 := rfl

theorem bytesOf64_injective : Function.Injective bytesOf64 := by
  intro left right same
  rcases List.append_inj same rfl with ⟨lowBytes, highBytes⟩
  have low := UInt32.toNat_inj.mpr (bytes32_injective lowBytes)
  have high := UInt32.toNat_inj.mpr (bytes32_injective highBytes)
  simp only [UInt64.toNat_toUInt32, UInt64.toNat_shiftRight,
    UInt64.reduceToNat, Nat.reducePow, Nat.reduceMod,
    Nat.shiftRight_eq_div_pow] at low high
  have leftRange := left.toNat_lt
  have rightRange := right.toNat_lt
  apply UInt64.toNat_inj.mp
  omega

/-! ## The sizes of raw digests -/

theorem Md5.length_finish (state : Md5.State) :
    (Md5.finish state).length = 16 := rfl

theorem Sha1.length_finish (state : Sha1.State) :
    (Sha1.finish state).length = 20 := rfl

end Digest

/-! ## Raw digests -/

/-- What a family computes, before it is written. -/
abbrev RawDigest : HashType → Type
  | .md5 => { bytes : List UInt8 // bytes.length = 16 }
  | .sha1 => { bytes : List UInt8 // bytes.length = 20 }
  | .xxhash => UInt32
  | .xxhash64 => UInt64
  | .xxhash64be => UInt64
  | .null => Empty

namespace HashType

/-- The raw digest of bytes, if the family has one. -/
def rawDigest? : (family : HashType) → List UInt8 → Option (RawDigest family)
  | .md5, bytes =>
      some ⟨Md5.finish (Md5.update Md5.start bytes), Md5.length_finish _⟩
  | .sha1, bytes =>
      some ⟨Sha1.finish (Sha1.update Sha1.start bytes), Sha1.length_finish _⟩
  | .xxhash, bytes =>
      some (XxHash32.finish (XxHash32.update XxHash32.start bytes))
  | .xxhash64, bytes =>
      some (XxHash64.finish (XxHash64.update XxHash64.start bytes))
  | .xxhash64be, bytes =>
      some (XxHash64.finish (XxHash64.update XxHash64.start bytes))
  | .null, _ => none

/-- A raw digest as its family writes it. -/
def write : (family : HashType) → RawDigest family → List Char
  | .md5, raw => hex raw.val
  | .sha1, raw => hex raw.val
  | .xxhash, raw => Text.paddedNumeral 10 raw.toNat
  | .xxhash64, raw => hex (bytesOf64 raw)
  | .xxhash64be, raw => hex (bytesOf64 raw).reverse

/-- The letter may stand in a digest of the family. -/
def Admits (family : HashType) (letter : Char) : Prop :=
  if family.isDecimal then letter.isDigit = true else IsSmallHexDigit letter

theorem digest_eq_write {family : HashType} {bytes : List UInt8}
    {raw : RawDigest family} (computed : family.rawDigest? bytes = some raw) :
    family.digest bytes = .ok (String.ofList (family.write raw)) := by
  cases family with
  | null => exact raw.elim
  | md5 => cases computed; rfl
  | sha1 => cases computed; rfl
  | xxhash => cases computed; rfl
  | xxhash64 => cases computed; rfl
  | xxhash64be => cases computed; rfl

theorem exists_rawDigest {family : HashType} (hasDigest : family ≠ .null)
    (bytes : List UInt8) : ∃ raw, family.rawDigest? bytes = some raw := by
  cases family with
  | null => exact absurd rfl hasDigest
  | md5 => exact ⟨_, rfl⟩
  | sha1 => exact ⟨_, rfl⟩
  | xxhash => exact ⟨_, rfl⟩
  | xxhash64 => exact ⟨_, rfl⟩
  | xxhash64be => exact ⟨_, rfl⟩

/-! ## Writing raw digests -/

/-- Every digest of a family has as many digits as the family says. -/
theorem length_write (family : HashType) (raw : RawDigest family) :
    (family.write raw).length = family.digestLength := by
  cases family with
  | null => exact raw.elim
  | md5 => rw [write, length_hex, raw.property]; rfl
  | sha1 => rw [write, length_hex, raw.property]; rfl
  | xxhash =>
      have small : raw.toNat < 10 ^ 10 :=
        Nat.lt_trans raw.toNat_lt (by decide)
      rw [write, Text.length_paddedNumeral]
      exact Nat.max_eq_left
        (Text.length_numeral_le_of_lt (by decide) small)
  | xxhash64 => rw [write, length_hex, length_bytesOf64]; rfl
  | xxhash64be =>
      rw [write, length_hex, List.length_reverse, length_bytesOf64]; rfl

theorem admits_of_mem_write {family : HashType} {raw : RawDigest family}
    {letter : Char} (member : letter ∈ family.write raw) :
    family.Admits letter := by
  cases family with
  | null => exact raw.elim
  | md5 => exact isSmallHexDigit_of_mem_hex member
  | sha1 => exact isSmallHexDigit_of_mem_hex member
  | xxhash => exact Text.isDigit_of_mem_paddedNumeral member
  | xxhash64 => exact isSmallHexDigit_of_mem_hex member
  | xxhash64be => exact isSmallHexDigit_of_mem_hex member

/-- A raw digest can be told from how its family writes it. -/
theorem write_injective (family : HashType) :
    Function.Injective family.write := by
  intro left right same
  cases family with
  | null => exact left.elim
  | md5 => exact Subtype.ext (hex_injective same)
  | sha1 => exact Subtype.ext (hex_injective same)
  | xxhash => exact UInt32.toNat_inj.mp (Text.eq_of_paddedNumeral_eq same)
  | xxhash64 => exact bytesOf64_injective (hex_injective same)
  | xxhash64be =>
      exact bytesOf64_injective
        (List.reverse_injective (hex_injective same))

/-- The two ways to write a double word have their bytes in turned order. -/
theorem exists_groups_of_xxhash64 (bytes : List UInt8) :
    ∃ groups : List (List Char), groups.length = 8 ∧
      (∀ group ∈ groups, group.length = 2) ∧
      xxhash64be.digest bytes = .ok (String.ofList groups.flatten) ∧
      xxhash64.digest bytes = .ok (String.ofList groups.reverse.flatten) := by
  let word := XxHash64.finish (XxHash64.update XxHash64.start bytes)
  refine ⟨(bytesOf64 word).reverse.map hexByte, rfl, ?_, rfl, ?_⟩
  · intro group member
    rcases List.mem_map.mp member with ⟨byte, -, rfl⟩
    rfl
  · rw [← List.map_reverse, List.reverse_reverse]
    rfl

/-- Only families with a digest give one, made of the digits they admit. -/
theorem admits_of_digest {family : HashType} {bytes : List UInt8}
    {written : String} (computed : family.digest bytes = .ok written) :
    written.toList.length = family.digestLength ∧
      0 < family.digestLength ∧
      ∀ letter ∈ written.toList, family.Admits letter := by
  have hasDigest : family ≠ .null := by
    rintro rfl
    cases computed
  rcases exists_rawDigest hasDigest bytes with ⟨raw, isRaw⟩
  rw [digest_eq_write isRaw] at computed
  cases computed
  rw [String.toList_ofList]
  refine ⟨length_write family raw, ?_, fun letter => admits_of_mem_write⟩
  cases family with
  | null => exact absurd rfl hasDigest
  | _ => decide

theorem isHexDigit_of_admits {family : HashType} {letter : Char}
    (admits : family.Admits letter) : Text.isHexDigit letter = true := by
  rw [Admits] at admits
  split at admits
  next => exact Text.isHexDigit_of_isDigit admits
  next => exact isHexDigit_of_isSmallHexDigit admits

end HashType

/-! ## Listings of hashed files -/

theorem Claim.writable_ofType {family : HashType} {path digest : String}
    {content : List UInt8} (computed : family.digest content = .ok digest)
    (oneLine : '\n' ∉ path.toList) :
    (Claim.ofType family path digest).Writable := by
  rcases HashType.admits_of_digest computed with ⟨length, positive, admits⟩
  refine ⟨family.label_ne_empty, family.isWord_label, oneLine, ?_,
    fun letter member => HashType.isHexDigit_of_admits (admits letter member)⟩
  rintro rfl
  rw [← length] at positive
  exact Nat.lt_irrefl 0 positive

namespace Hasher

variable {hasher : Hasher} {files : Files} {paths : List String}

theorem digest_of_mem_hashBytes {content : List UInt8} {family : HashType}
    {digest : String} (member : (family, digest) ∈ hasher.hashBytes content) :
    family.digest content = .ok digest := by
  rcases List.mem_map.mp member with ⟨⟨given, last⟩, updated, same⟩
  rcases List.mem_map.mp updated with ⟨⟨own, first⟩, started, next⟩
  rcases List.mem_filterMap.mp started with ⟨listed, -, begun⟩
  rcases Option.map_eq_some_iff.mp begun with ⟨state, isStart, pair⟩
  cases pair
  cases next
  cases same
  rw [HashType.digest, isStart]

/-- Every claim about hashed files states a digest of one of them. -/
theorem exists_digest_of_mem_hashInOrder {claims : List Claim}
    (hashed : hasher.hashInOrder files paths = .ok claims) {claim : Claim}
    (member : claim ∈ claims) :
    ∃ path ∈ paths, ∃ family content digest,
      family.digest content = .ok digest ∧
        claim = .ofType family path digest := by
  induction paths generalizing claims with
  | nil =>
      cases hashed
      cases member
  | cons path rest inductionHypothesis =>
      rcases bind_eq_ok_iff.mp hashed with ⟨digests, here, afterwards⟩
      rcases bind_eq_ok_iff.mp afterwards with ⟨others, later, joined⟩
      cases joined
      rcases List.mem_append.mp member with isHere | isLater
      · rcases List.mem_map.mp isHere with ⟨⟨family, digest⟩, stated, rfl⟩
        rcases hashFile_eq_ok_iff.mp here with ⟨content, -, rfl⟩
        exact ⟨path, List.mem_cons_self, family, content, digest,
          digest_of_mem_hashBytes stated, rfl⟩
      · rcases inductionHypothesis later isLater with
          ⟨other, isOther, stated⟩
        exact ⟨other, List.mem_cons_of_mem _ isOther, stated⟩

theorem writable_of_mem_hashFiles {listing : Listing}
    (hashed : hasher.hashFiles files paths = .ok listing)
    (oneLine : ∀ path ∈ paths, '\n' ∉ path.toList) {claim : Claim}
    (member : claim ∈ listing.claims) : claim.Writable := by
  rw [hashFiles_eq_hashInOrder] at hashed
  rcases exists_of_map_eq_ok hashed with ⟨claims, inOrder, rfl⟩
  rcases exists_digest_of_mem_hashInOrder inOrder member with
    ⟨path, isPath, family, content, digest, computed, rfl⟩
  exact Claim.writable_ofType computed (oneLine path isPath)

end Hasher

/--
Every family but the one without digest writes its raw digest, with as many
digits as it says, small ones in base sixteen or decimal ones, and no two raw
digests alike.  The decimal ones have the value of the word, and the two ways
to write a double word differ in the order of its bytes only.  A listing of
hashed files whose paths do not break lines is read back as it is.
-/
theorem digests_written_faithfully :
    (∀ family : HashType, family ≠ .null → ∀ bytes, ∃ raw written,
      family.rawDigest? bytes = some raw ∧
      family.digest bytes = .ok written ∧
      written.toList = family.write raw ∧
      written.toList.length = family.digestLength ∧
      ∀ letter ∈ written.toList, family.Admits letter) ∧
    (∀ family : HashType, Function.Injective family.write) ∧
    (∀ word : UInt32,
      Text.numeralValue (HashType.write .xxhash word) = word.toNat) ∧
    (∀ bytes, ∃ groups : List (List Char), groups.length = 8 ∧
      (∀ group ∈ groups, group.length = 2) ∧
      HashType.xxhash64be.digest bytes =
        .ok (String.ofList groups.flatten) ∧
      HashType.xxhash64.digest bytes =
        .ok (String.ofList groups.reverse.flatten)) ∧
    ∀ (hasher : Hasher) (files : Files) (paths : List String) listing,
      hasher.hashFiles files paths = .ok listing →
      (∀ path ∈ paths, '\n' ∉ path.toList) →
      Listing.read listing.text = listing := by
  refine ⟨?_, HashType.write_injective, ?_,
    HashType.exists_groups_of_xxhash64, ?_⟩
  · intro family hasDigest bytes
    rcases HashType.exists_rawDigest hasDigest bytes with ⟨raw, isRaw⟩
    have computed := HashType.digest_eq_write isRaw
    rcases HashType.admits_of_digest computed with ⟨length, -, admits⟩
    exact ⟨raw, _, isRaw, computed, String.toList_ofList, length, admits⟩
  · intro word
    exact Text.numeralValue_paddedNumeral 10 word.toNat
  · intro hasher files paths listing hashed oneLine
    exact Listing.read_text_of_writable fun claim =>
      Hasher.writable_of_mem_hashFiles hashed oneLine

/-- An empty file whose path looks like the end of a claim. -/
theorem digests_of_empty_file :
    HashType.xxhash ≠ .null ∧
    (∃ written, HashType.xxhash.digest [] = .ok written ∧
      written.toList.length = 10) ∧
    ∃ files paths listing,
      Hasher.standard.hashFiles files paths = .ok listing ∧
      (∀ path ∈ paths, '\n' ∉ path.toList) ∧
      listing.claims =
        [⟨"MD5", "a)= 00", "d41d8cd98f00b204e9800998ecf8427e"⟩] ∧
      Listing.read listing.text = listing := by
  rcases digests_written_faithfully with ⟨written, -, -, -, readBack⟩
  have hasDigest : HashType.xxhash ≠ .null := by decide
  have hashed : Hasher.standard.hashFiles
      (FileTree.ofEntries [("a)= 00", .file [])]).find ["a)= 00"] =
        .ok ⟨[⟨"MD5", "a)= 00", "d41d8cd98f00b204e9800998ecf8427e"⟩]⟩ := by
    decide +kernel
  have oneLine : ∀ path ∈ ["a)= 00"], '\n' ∉ path.toList := by decide
  rcases written .xxhash hasDigest [] with ⟨-, digest, -, given, -, length, -⟩
  exact ⟨hasDigest, ⟨digest, given, length⟩, _, _, _, hashed, oneLine, rfl,
    readBack _ _ _ _ hashed oneLine⟩

end MediaHash
