import Mathlib.Data.List.Forall2
import MediaHash.Proofs.Text.Classes
import MediaHash.Proofs.Text.Splitting
import MediaHash.Proofs.Text.Trimming
import MediaHash.Sequence.Basic

/-!
# The grammar of a sequence

A piece between commas spells a token when, blanks at its ends aside, it is a
numeral or two numerals in order around its first dash.  Numerals are runs of
decimal digits whose value a sequence may hold; leading zeros count for the
width only.

The main statement says that a sequence is read exactly if each of its pieces
spells a token, that the tokens read are those, in order, and which part of
the text the fault blames otherwise.
-/

namespace MediaHash

open Text

/-! ## Numbers -/

/-- Digits that stand for a number that a sequence may hold. -/
structure Token.Numeral (digits : List Char) : Prop where
  nonempty : digits ≠ []
  decimal : ∀ letter ∈ digits, letter.isDigit = true
  small : numeralValue digits ≤ 4294967295

namespace Token

theorem Numeral.trimBlanks_eq {digits : List Char}
    (numeral : Numeral digits) : trimBlanks digits = digits := by
  apply trimBlanks_of_visible
  intro letter member
  exact isBlank_eq_false_of_isDigit (numeral.decimal letter member)

theorem Numeral.dash_not_mem {digits : List Char}
    (numeral : Numeral digits) : '-' ∉ digits := by
  intro member
  exact absurd (numeral.decimal '-' member) (by decide)

theorem readNumber_of_numeral {token written : List Char}
    (numeral : Numeral (trimBlanks written)) :
    readNumber token written = .ok (numeralValue (trimBlanks written)) := by
  have decimal : (trimBlanks written).all Char.isDigit = true :=
    List.all_eq_true.mpr numeral.decimal
  have value : numeralUpTo largest (trimBlanks written) =
      numeralValue (trimBlanks written) := numeralUpTo_eq numeral.small
  have inRange : ¬ largest < numeralValue (trimBlanks written) :=
    Nat.not_lt.mpr numeral.small
  simp [readNumber, numeral.nonempty, decimal, value, inRange]

/-- A number is read or the token that it belongs to is blamed. -/
theorem readNumber_cases (token written : List Char) :
    (Numeral (trimBlanks written) ∧
        readNumber token written =
          .ok (numeralValue (trimBlanks written))) ∨
      (¬ Numeral (trimBlanks written) ∧
        ∃ reason,
          readNumber token written = .error (invalid token reason)) := by
  by_cases numeral : Numeral (trimBlanks written)
  · exact Or.inl ⟨numeral, readNumber_of_numeral numeral⟩
  · refine Or.inr ⟨numeral, ?_⟩
    simp only [readNumber]
    split
    next => exact ⟨_, rfl⟩
    next nonempty =>
      split
      next => exact ⟨_, rfl⟩
      next decimal =>
        split
        next => exact ⟨_, rfl⟩
        next inRange =>
          refine absurd ⟨nonempty, ?_, ?_⟩ numeral
          · simpa using decimal
          · exact numeralUpTo_le_iff.mp (Nat.not_lt.mp inRange)

/-! ## Tokens -/

/-- A piece of a sequence stands for a token. -/
inductive Spells : List Char → Token → Prop where
  | number {piece digits : List Char} (trims : Trims digits piece)
      (numeral : Numeral digits) :
      Spells piece
        ⟨numeralValue digits, numeralValue digits, digits.length⟩
  | range {piece low high lowDigits highDigits : List Char}
      (trims : Trims (low ++ '-' :: high) piece) (firstDash : '-' ∉ low)
      (lowTrims : Trims lowDigits low) (highTrims : Trims highDigits high)
      (lowNumeral : Numeral lowDigits) (highNumeral : Numeral highDigits)
      (ordered : numeralValue lowDigits ≤ numeralValue highDigits) :
      Spells piece
        ⟨numeralValue lowDigits, numeralValue highDigits, lowDigits.length⟩

/-- The part of a piece that a fault names. -/
def blamed (piece : List Char) : List Char :=
  if piece.all isBlank = true then piece else trimBlanks piece

theorem readRange_of_ordered {token low high : List Char}
    (lowNumeral : Numeral (trimBlanks low))
    (highNumeral : Numeral (trimBlanks high))
    (ordered :
      numeralValue (trimBlanks low) ≤ numeralValue (trimBlanks high)) :
    readRange token low high =
      .ok ⟨numeralValue (trimBlanks low), numeralValue (trimBlanks high),
        (trimBlanks low).length⟩ := by
  rw [readRange, readNumber_of_numeral lowNumeral,
    readNumber_of_numeral highNumeral]
  exact if_neg (Nat.not_lt.mpr ordered)

theorem readRange_fault {token low high : List Char}
    (invalidRange :
      ¬ (Numeral (trimBlanks low) ∧ Numeral (trimBlanks high) ∧
        numeralValue (trimBlanks low) ≤ numeralValue (trimBlanks high))) :
    ∃ reason, readRange token low high = .error (invalid token reason) := by
  unfold readRange
  rcases readNumber_cases token low with
    ⟨lowNumeral, lowRead⟩ | ⟨-, reason, lowRead⟩
  · rw [lowRead]
    rcases readNumber_cases token high with
      ⟨highNumeral, highRead⟩ | ⟨-, reason, highRead⟩
    · rw [highRead]
      have inverted :
          numeralValue (trimBlanks high) < numeralValue (trimBlanks low) := by
        rw [← Nat.not_le]
        exact fun ordered =>
          invalidRange ⟨lowNumeral, highNumeral, ordered⟩
      exact ⟨_, if_pos inverted⟩
    · rw [highRead]
      exact ⟨reason, rfl⟩
  · rw [lowRead]
    exact ⟨reason, rfl⟩

/-- A token is read from every piece that stands for it. -/
theorem read_of_spells {piece : List Char} {token : Token}
    (spells : Spells piece token) : read piece = .ok token := by
  cases spells with
  | @number digits trims numeral =>
      have same : trimBlanks piece = digits := trimBlanks_eq_of_trims trims
      have single : splitFirst '-' digits = none :=
        splitFirst_eq_none_iff.mpr numeral.dash_not_mem
      have trimmed : Numeral (trimBlanks digits) := by
        rwa [numeral.trimBlanks_eq]
      have value : readNumber digits digits =
          .ok (numeralValue (trimBlanks digits)) :=
        readNumber_of_numeral trimmed
      rw [numeral.trimBlanks_eq] at value
      simp only [read, same, numeral.nonempty, if_false, single, value]
      rfl
  | @range low high _ _ trims firstDash lowTrims highTrims lowNumeral
      highNumeral ordered =>
      rcases trims_iff.mp lowTrims with rfl
      rcases trims_iff.mp highTrims with rfl
      have same : trimBlanks piece = low ++ '-' :: high :=
        trimBlanks_eq_of_trims trims
      have nonempty : low ++ '-' :: high ≠ [] := by simp
      have split : splitFirst '-' (low ++ '-' :: high) = some (low, high) :=
        splitFirst_append firstDash
      simp only [read, same, nonempty, if_false, split]
      exact readRange_of_ordered lowNumeral highNumeral ordered

/-- A piece that stands for no token is blamed, and nothing else is. -/
theorem read_fault {piece : List Char}
    (absent : ¬ ∃ token, Spells piece token) :
    ∃ reason, read piece = .error (invalid (blamed piece) reason) := by
  have trims := trimBlanks_trims piece
  have blank_iff : piece.all isBlank = true ↔ trimBlanks piece = [] := by
    rw [List.all_eq_true, trimBlanks_eq_nil_iff]
  by_cases blank : trimBlanks piece = []
  · have whole : blamed piece = piece := if_pos (blank_iff.mpr blank)
    rw [whole, read, if_pos blank]
    exact ⟨_, rfl⟩
  · have part : blamed piece = trimBlanks piece :=
      if_neg (mt blank_iff.mp blank)
    rw [part]
    simp only [read, blank, if_false]
    cases split : splitFirst '-' (trimBlanks piece) with
    | none =>
        rcases readNumber_cases (trimBlanks piece) (trimBlanks piece) with
          ⟨numeral, -⟩ | ⟨-, reason, numberRead⟩
        · rw [trimBlanks_trimBlanks] at numeral
          exact absurd ⟨_, Spells.number trims numeral⟩ absent
        · rw [numberRead]
          exact ⟨reason, rfl⟩
    | some bounds =>
        rcases bounds with ⟨low, high⟩
        rcases splitFirst_eq_some split with ⟨shape, firstDash⟩
        apply readRange_fault
        rintro ⟨lowNumeral, highNumeral, ordered⟩
        rw [shape] at trims
        exact absent ⟨_, Spells.range trims firstDash (trimBlanks_trims low)
          (trimBlanks_trims high) lowNumeral highNumeral ordered⟩

end Token

/-! ## Sequences -/

namespace Sequence

/-- What a fault in one of the pieces of a text blames. -/
inductive Blames (text : List Char) (pieces : List (List Char)) :
    List Char → Prop where
  /-- A text that holds nothing but blanks is blamed as a whole. -/
  | whole (blank : ∀ letter ∈ text, isBlank letter = true) :
      Blames text pieces text
  /-- Otherwise the leftmost piece that stands for no token is blamed. -/
  | piece {earlier later : List (List Char)} {piece : List Char}
      (visible : ∃ letter ∈ text, isBlank letter = false)
      (place : pieces = earlier ++ piece :: later)
      (valid : ∀ other ∈ earlier, ∃ token, Token.Spells other token)
      (invalid : ¬ ∃ token, Token.Spells piece token) :
      Blames text pieces (Token.blamed piece)

theorem readTokens_of_spells {pieces : List (List Char)}
    {tokens : List Token} (spells : List.Forall₂ Token.Spells pieces tokens) :
    readTokens pieces = .ok tokens := by
  induction spells with
  | nil => rfl
  | cons first rest ih =>
      rw [readTokens, Token.read_of_spells first, ih]
      rfl

/-- The pieces spell their tokens, or the leftmost that does not is blamed. -/
theorem readTokens_cases (pieces : List (List Char)) :
    (∃ tokens, List.Forall₂ Token.Spells pieces tokens) ∨
      ∃ earlier piece later reason,
        pieces = earlier ++ piece :: later ∧
          (∀ other ∈ earlier, ∃ token, Token.Spells other token) ∧
          (¬ ∃ token, Token.Spells piece token) ∧
          readTokens pieces =
            .error (Token.invalid (Token.blamed piece) reason) := by
  induction pieces with
  | nil => exact Or.inl ⟨[], .nil⟩
  | cons piece rest ih =>
      by_cases present : ∃ token, Token.Spells piece token
      · rcases present with ⟨token, spells⟩
        rcases ih with ⟨tokens, restSpells⟩ |
          ⟨earlier, culprit, later, reason, rfl, valid, invalid, failure⟩
        · exact Or.inl ⟨token :: tokens, .cons spells restSpells⟩
        · refine Or.inr ⟨piece :: earlier, culprit, later, reason, rfl,
            List.forall_mem_cons.mpr ⟨⟨token, spells⟩, valid⟩, invalid, ?_⟩
          rw [readTokens, Token.read_of_spells spells, failure]
          rfl
      · rcases Token.read_fault present with ⟨reason, failure⟩
        refine Or.inr ⟨[], piece, rest, reason, rfl, by simp, present, ?_⟩
        rw [readTokens, failure]
        rfl

theorem exists_token_of_mem {pieces : List (List Char)}
    {tokens : List Token} (spells : List.Forall₂ Token.Spells pieces tokens) :
    ∀ piece ∈ pieces, ∃ token, Token.Spells piece token := by
  induction spells with
  | nil => simp
  | cons first rest ih => exact List.forall_mem_cons.mpr ⟨⟨_, first⟩, ih⟩

theorem not_spells_of_blank {piece : List Char} {token : Token}
    (blank : trimBlanks piece = []) : ¬ Token.Spells piece token := by
  intro spells
  have success := Token.read_of_spells spells
  rw [Token.read, if_pos blank] at success
  cases success

theorem pieces_of_blank {text : List Char} (blank : trimBlanks text = []) :
    pieces ',' text = [text] := by
  apply pieces_of_not_mem
  intro member
  exact absurd (trimBlanks_eq_nil_iff.mp blank ',' member) (by decide)

theorem read_of_visible {text : String}
    (visible : trimBlanks text.toList ≠ []) :
    read text = (readTokens (pieces ',' text.toList)).map ofTokens := by
  rw [read, if_neg visible]
  rfl

theorem read_of_readTokens {text : String} {tokens : List Token}
    (visible : trimBlanks text.toList ≠ [])
    (isRead : readTokens (pieces ',' text.toList) = .ok tokens) :
    read text = .ok (ofTokens tokens) := by
  rw [read_of_visible visible, isRead]
  rfl

/-- A sequence is read from every text whose pieces stand for its tokens. -/
theorem read_of_spells {text : String} {tokens : List Token}
    (spells :
      List.Forall₂ Token.Spells (pieces ',' text.toList) tokens) :
    read text = .ok (ofTokens tokens) := by
  have visible : trimBlanks text.toList ≠ [] := by
    intro blank
    rw [pieces_of_blank blank] at spells
    rcases exists_token_of_mem spells _ List.mem_cons_self with
      ⟨token, blankSpells⟩
    exact not_spells_of_blank blank blankSpells
  exact read_of_readTokens visible (readTokens_of_spells spells)

/--
A sequence is read exactly if every piece between commas stands for a token,
and then its tokens are those of the pieces, in order.  Otherwise the fault
is one of syntax, and it blames a blank text as a whole and else the leftmost
piece that stands for no token.
-/
theorem read_grammar (text : String) :
    ∃ pieces : List (List Char),
      (∀ parts, Joins ',' parts text.toList ↔ parts = pieces) ∧
        ((∃ sequence, read text = .ok sequence) ↔
          ∀ piece ∈ pieces, ∃ token, Token.Spells piece token) ∧
        match read text with
        | .ok sequence => List.Forall₂ Token.Spells pieces sequence.tokens
        | .error fault =>
            ∃ blame reason,
              fault = .invalidSyntax (String.ofList blame) reason ∧
                Blames text.toList pieces blame := by
  refine ⟨pieces ',' text.toList, fun parts => joins_iff, ?_⟩
  by_cases blank : trimBlanks text.toList = []
  · have failure : read text =
        .error (.invalidSyntax text "empty sequence specification") :=
      if_pos blank
    rw [failure, pieces_of_blank blank]
    constructor
    · constructor
      · rintro ⟨sequence, success⟩
        cases success
      · intro present
        rcases present _ List.mem_cons_self with ⟨token, spells⟩
        exact absurd spells (not_spells_of_blank blank)
    · refine ⟨text.toList, _, by rw [String.ofList_toList], ?_⟩
      exact Blames.whole (trimBlanks_eq_nil_iff.mp blank)
  · rcases readTokens_cases (pieces ',' text.toList) with
      ⟨tokens, spells⟩ |
        ⟨earlier, piece, later, reason, place, valid, invalid, failure⟩
    · have success : read text = .ok (ofTokens tokens) := by
        rw [read, if_neg blank, readTokens_of_spells spells]
        rfl
      rw [success]
      exact ⟨⟨fun _ => exists_token_of_mem spells, fun _ => ⟨_, rfl⟩⟩,
        spells⟩
    · have readFails :
          read text =
            .error (Token.invalid (Token.blamed piece) reason) := by
        rw [read, if_neg blank, failure]
        rfl
      rw [readFails]
      constructor
      · constructor
        · rintro ⟨sequence, success⟩
          cases success
        · intro present
          exact absurd (present piece (place ▸ by simp)) invalid
      · refine ⟨Token.blamed piece, _, rfl, ?_⟩
        refine Blames.piece ?_ place valid invalid
        rw [trimBlanks_eq_nil_iff] at blank
        simpa using blank

end Sequence

end MediaHash
