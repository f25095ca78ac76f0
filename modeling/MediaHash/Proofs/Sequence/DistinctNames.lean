import MediaHash.Proofs.Sequence.Naming
import MediaHash.Proofs.Sequence.Writing
import MediaHash.Proofs.Text.Numerals

/-!
# Different numbers have different names

A pattern with a mark holds the padded number as often as it has marks, and
the rest of it is the same for all numbers.  The padded number can therefore
be told from the name, and its value from its digits, however many zeros the
tokens have put in front of them.  Since no number is named twice, no name is
given twice either.

There are names only as far as the numbers can be padded.
-/

namespace MediaHash

namespace PaddedNumber

variable {parts : List (List Char)} (several : 1 < parts.length)

include several

theorem number_eq_of_name_eq {left right : PaddedNumber}
    (equal : left.name parts = right.name parts) :
    left.number = right.number := by
  have fillings : left.text.intercalate parts =
      right.text.intercalate parts := String.ofList_injective equal
  have texts : Text.paddedNumeral left.width left.number =
      Text.paddedNumeral right.width right.number :=
    eq_of_intercalate_eq several fillings
  exact Text.eq_of_paddedNumeral_eq texts

theorem name_ne_empty (padded : PaddedNumber) : padded.name parts ≠ "" := by
  intro empty
  have nothing : padded.text.intercalate parts = [] :=
    String.ofList_injective empty
  have within := infix_intercalate padded.text several
  rw [nothing, List.infix_nil] at within
  exact Text.paddedNumeral_ne_nil padded.width padded.number within

theorem nodup_map_name {walk : List PaddedNumber}
    (nodup : (walk.map number).Nodup) : (walk.map (name parts)).Nodup := by
  rw [List.Nodup, List.pairwise_map] at nodup ⊢
  apply nodup.imp
  intro left right different equal
  exact different (number_eq_of_name_eq several equal)

end PaddedNumber

namespace Sequence

/-- The name is the pattern with the number, padded somehow, in every mark. -/
def NamedBy (pattern : String) (number : Nat) (name : String) : Prop :=
  ∃ width parts, Text.Cuts numberMark parts pattern.toList ∧
    name = PaddedNumber.name parts ⟨width, number⟩

theorem namedBy_name (pattern : String) (padded : PaddedNumber) :
    NamedBy pattern padded.number
      (padded.name (cutPattern pattern.toList)) :=
  ⟨padded.width, _, cuts_cutPattern pattern.toList, rfl⟩

/-- A name that holds a mark tells its number. -/
theorem NamedBy.number_eq {pattern : String} (marked : HasMark pattern)
    {number : Nat} {padded : PaddedNumber}
    (named : NamedBy pattern number
      (padded.name (cutPattern pattern.toList))) :
    number = padded.number := by
  rcases named with ⟨width, parts, cuts, equal⟩
  cases cuts_iff.mp cuts
  symm
  exact PaddedNumber.number_eq_of_name_eq (one_lt_length_cutPattern marked)
    equal

namespace WellFormed

variable {sequence : Sequence} (wellFormed : sequence.WellFormed)
  {pattern : String} (marked : HasMark pattern)

include wellFormed marked

theorem nodup_names : (sequence.names pattern).Nodup := by
  rw [wellFormed.names_eq_walk]
  exact PaddedNumber.nodup_map_name (one_lt_length_cutPattern marked)
    (PaddedNumber.nodup_map_keepNew [] _)

theorem name_ne_empty : ∀ name ∈ sequence.names pattern, name ≠ "" := by
  rw [wellFormed.names_eq_walk, List.forall_mem_map]
  intro padded member
  exact padded.name_ne_empty (one_lt_length_cutPattern marked)

/-- Each number has one of the names in full. -/
theorem existsUnique_name {number : Nat}
    (member : number ∈ sequence.numbers) :
    ∃! name, name ∈ sequence.names pattern ∧
      NamedBy pattern number name := by
  have nodup : (sequence.walk.map PaddedNumber.number).Nodup :=
    PaddedNumber.nodup_map_keepNew [] _
  rw [wellFormed.names_eq_walk pattern]
  rcases List.mem_map.mp ((WellFormed.mem_walk_iff number).mpr member) with
    ⟨padded, inWalk, rfl⟩
  refine ⟨padded.name (cutPattern pattern.toList),
    ⟨List.mem_map_of_mem inWalk, namedBy_name pattern padded⟩, ?_⟩
  rintro name ⟨isName, named⟩
  rcases List.mem_map.mp isName with ⟨other, otherInWalk, rfl⟩
  rw [List.inj_on_of_nodup_map nodup inWalk otherInWalk
    (named.number_eq marked)]

/-- Each of the names in full belongs to one number. -/
theorem exists_number_of_name {name : String}
    (isName : name ∈ sequence.names pattern) :
    ∃ number ∈ sequence.numbers, ∀ other,
      NamedBy pattern other name ↔ other = number := by
  rw [wellFormed.names_eq_walk pattern] at isName
  rcases List.mem_map.mp isName with ⟨padded, inWalk, rfl⟩
  refine ⟨padded.number, ?_, ?_⟩
  · rw [← WellFormed.mem_walk_iff]
    exact List.mem_map_of_mem inWalk
  · intro other
    constructor
    · intro named
      exact named.number_eq marked
    · rintro rfl
      exact namedBy_name pattern padded

end WellFormed

/--
The names of a sequence that has been read, under a pattern with a mark, are
pairwise different, and there are as many of them as there are numbers.  Each
number has one of the names, and a name belongs to no other number.  Any
number of names that is asked for first are pairwise different as well.

All of this is about names that can be made.  Making all of them breaks off
exactly if some number meets a width that is beyond padding.
-/
theorem names_distinct {text : String} {sequence : Sequence}
    (success : read text = .ok sequence) {pattern : String}
    (marked : HasMark pattern) :
    (sequence.names? pattern = none ↔
      ∃ padded ∈ sequence.walk, Text.widestPadding < padded.width) ∧
    (∀ limit names, sequence.takeNames? pattern limit = some names →
      names.Nodup ∧ names.length = min limit sequence.size) ∧
    ∀ names, sequence.names? pattern = some names →
      names.Nodup ∧
      names.length = sequence.size ∧
      (∀ number ∈ sequence.numbers,
        ∃! name, name ∈ names ∧ NamedBy pattern number name) ∧
      ∀ name ∈ names,
        ∃ number ∈ sequence.numbers, ∀ other,
          NamedBy pattern other name ↔ other = number := by
  have wellFormed := wellFormed_of_read success
  have nodup := wellFormed.nodup_names marked
  have length := wellFormed.length_names pattern
  refine ⟨wellFormed.names?_eq_none_iff, ?_, ?_⟩
  · intro limit names isNames
    rw [wellFormed.takeNames?_eq] at isNames
    split at isNames
    next able =>
      cases isNames
      refine ⟨nodup.sublist (List.take_sublist limit _), ?_⟩
      rw [List.length_take, length]
    next unable => cases isNames
  · intro names isNames
    rw [wellFormed.names?_eq] at isNames
    split at isNames
    next able =>
      cases isNames
      exact ⟨nodup, length,
        fun _ member => wellFormed.existsUnique_name marked member,
        fun _ isName => wellFormed.exists_number_of_name marked isName⟩
    next unable => cases isNames

/-- A digit around the marks, and a number that two widths could pad. -/
theorem names_distinct_of_mixed_widths :
    read "9-10, 009, 011" =
        .ok (ofTokens [⟨9, 10, 1⟩, ⟨9, 9, 3⟩, ⟨11, 11, 3⟩]) ∧
      HasMark "0\x7bN\x7d0\x7bN\x7d" ∧
      (ofTokens [⟨9, 10, 1⟩, ⟨9, 9, 3⟩, ⟨11, 11, 3⟩]).names?
          "0\x7bN\x7d0\x7bN\x7d" =
        some ["0909", "010010", "00110011"] ∧
      ["0909", "010010", "00110011"].Nodup ∧
      ["0909", "010010", "00110011"].length =
        (ofTokens [⟨9, 10, 1⟩, ⟨9, 9, 3⟩, ⟨11, 11, 3⟩]).size := by
  have success : read "9-10, 009, 011" =
      .ok (ofTokens [⟨9, 10, 1⟩, ⟨9, 9, 3⟩, ⟨11, 11, 3⟩]) :=
    read_of_readTokens (by decide +kernel) rfl
  have marked : HasMark "0\x7bN\x7d0\x7bN\x7d" :=
    ⟨['0'], '0' :: numberMark, by decide⟩
  have named : (ofTokens [⟨9, 10, 1⟩, ⟨9, 9, 3⟩, ⟨11, 11, 3⟩]).names?
      "0\x7bN\x7d0\x7bN\x7d" =
        some ["0909", "010010", "00110011"] := by
    rw [(wellFormed_of_read success).names?_eq,
      (wellFormed_of_read success).names_eq_walk]
    decide +kernel
  rcases names_distinct success marked with ⟨-, -, distinct⟩
  rcases distinct _ named with ⟨nodup, count, -⟩
  exact ⟨success, marked, named, nodup, count⟩

/-- One number is read and has no name at all, whatever the zeros are for. -/
theorem wide_zeros_have_no_names :
    read (zeros 65536) = .ok (ofTokens [⟨0, 0, 65536⟩]) ∧
      HasMark "f\x7bN\x7d" ∧
      (ofTokens [⟨0, 0, 65536⟩]).size = 1 ∧
      (ofTokens [⟨0, 0, 65536⟩]).names? "f\x7bN\x7d" = none := by
  refine ⟨read_zeros 65535, ⟨['f'], [], by decide⟩, ?_,
    names?_zero (Nat.lt_succ_self _) _⟩
  rw [ofTokens_zero]
  rfl

end Sequence

end MediaHash
