import MediaHash.Proofs.Sequence.Membership
import MediaHash.Proofs.Text.Numerals

/-!
# The written form of a sequence

A sequence is written token by token.  Both bounds of a token are padded to
the width of the lower one, so that the width is found again when the token
is read, and the zeros of the upper bound do not matter.  What is written is
read as the same tokens.  Two sequences are therefore written alike exactly
if they have the same tokens.  Writing a sequence breaks off exactly if a
width is beyond padding.
-/

namespace MediaHash

open Text

namespace Token

/-! ## A token and its text -/

/-- A token whose text can be read. -/
structure Writable (token : Token) : Prop where
  inOrder : token.low ≤ token.high
  small : token.high ≤ 4294967295
  wide : (numeral token.low).length ≤ token.width

theorem Spells.writable {piece : List Char} {token : Token}
    (spells : Spells piece token) : token.Writable where
  inOrder := spells.inOrder
  small := spells.high_le
  wide := by
    cases spells with
    | number _ numeral =>
        exact length_numeral_le numeral.decimal numeral.nonempty
    | range _ _ _ _ lowNumeral _ _ =>
        exact length_numeral_le lowNumeral.decimal lowNumeral.nonempty

theorem Spells.cons_blank {piece : List Char} {token : Token}
    {letter : Char} (spells : Spells piece token)
    (blank : isBlank letter = true) : Spells (letter :: piece) token := by
  cases spells with
  | number trims numeral => exact .number (trims.cons blank) numeral
  | range trims firstDash lowTrims highTrims lowNumeral highNumeral ordered =>
      exact .range (trims.cons blank) firstDash lowTrims highTrims lowNumeral
        highNumeral ordered

theorem numeral_paddedNumeral {number : Nat} (small : number ≤ 4294967295)
    (width : Nat) : Numeral (paddedNumeral width number) where
  nonempty := paddedNumeral_ne_nil width number
  decimal _ member := isDigit_of_mem_paddedNumeral member
  small := by rwa [numeralValue_paddedNumeral]

theorem Numeral.trims {digits : List Char} (numeral : Numeral digits) :
    Trims digits digits :=
  trims_iff.mpr numeral.trimBlanks_eq.symm

theorem isDigit_or_eq_of_mem_text {token : Token} {letter : Char}
    (member : letter ∈ token.text) : letter.isDigit = true ∨ letter = '-' := by
  rw [text] at member
  split at member
  next single => exact .inl (isDigit_of_mem_paddedNumeral member)
  next range =>
    rcases List.mem_append.mp member with inLow | inRest
    · exact .inl (isDigit_of_mem_paddedNumeral inLow)
    · rcases List.mem_cons.mp inRest with isDash | inHigh
      · exact .inr isDash
      · exact .inl (isDigit_of_mem_paddedNumeral inHigh)

theorem comma_not_mem_text (token : Token) : ',' ∉ token.text := by
  intro member
  rcases isDigit_or_eq_of_mem_text member with isDigit | isDash
  · exact absurd isDigit (by decide)
  · exact absurd isDash (by decide)

theorem trims_text (token : Token) : Trims token.text token.text := by
  apply trims_iff.mpr
  symm
  apply trimBlanks_of_visible
  intro letter member
  rcases isDigit_or_eq_of_mem_text member with isDigit | rfl
  · exact isBlank_eq_false_of_isDigit isDigit
  · rfl

theorem Writable.spells_text {token : Token} (writable : token.Writable) :
    Spells token.text token := by
  have lowNumeral : Numeral (paddedNumeral token.width token.low) :=
    numeral_paddedNumeral
      (Nat.le_trans writable.inOrder writable.small) token.width
  have width : (paddedNumeral token.width token.low).length =
      token.width := by
    rw [length_paddedNumeral]
    exact Nat.max_eq_left writable.wide
  have trims := trims_text token
  rw [text] at trims ⊢
  split at trims
  next single =>
    rw [if_pos single]
    have bounds : token.low = token.high := beq_iff_eq.mp single
    have same : Token.mk token.low token.low token.width = token :=
      congrArg (fun high => Token.mk token.low high token.width) bounds
    have spells := Spells.number trims lowNumeral
    rw [numeralValue_paddedNumeral, width, same] at spells
    exact spells
  next range =>
    rw [if_neg range]
    have highNumeral : Numeral (paddedNumeral token.width token.high) :=
      numeral_paddedNumeral writable.small token.width
    have spells := Spells.range trims lowNumeral.dash_not_mem
      lowNumeral.trims highNumeral.trims lowNumeral highNumeral
    simp only [numeralValue_paddedNumeral, width] at spells
    exact spells writable.inOrder

end Token

/-! ## Tokens behind each other -/

/-- A blank behind each separator can be put in front of each text. -/
theorem intercalate_pair (separator blank : Char) (first : List Char)
    (rest : List (List Char)) :
    [separator, blank].intercalate (first :: rest) =
      [separator].intercalate (first :: rest.map (blank :: ·)) := by
  induction rest generalizing first with
  | nil => rw [List.map_nil, List.intercalate_singleton,
      List.intercalate_singleton]
  | cons second rest ih =>
      rw [List.intercalate_cons_cons, ih, List.map_cons,
        List.intercalate_cons_cons, List.intercalate_cons_cons_left]
      simp

namespace Sequence

theorem toList_text (sequence : Sequence) :
    sequence.text.toList =
      [',', ' '].intercalate (sequence.tokens.map Token.text) := by
  rw [text, joinWith_eq_intercalate, String.toList_intercalate,
    List.map_map]
  congr 1
  apply List.map_congr_left
  intro token member
  exact String.toList_ofList

theorem joins_text {sequence : Sequence} {first : Token}
    {rest : List Token} (tokens : sequence.tokens = first :: rest) :
    Joins ',' (first.text :: rest.map fun token => ' ' :: token.text)
      sequence.text.toList where
  nonempty := List.cons_ne_nil _ _
  free := by
    refine List.forall_mem_cons.mpr ⟨first.comma_not_mem_text, ?_⟩
    rw [List.forall_mem_map]
    intro token _ member
    rcases List.mem_cons.mp member with isBlank | inText
    · cases isBlank
    · exact token.comma_not_mem_text inText
  joined := by
    rw [toList_text, tokens, List.map_cons, intercalate_pair, List.map_map]
    rfl

theorem read_text {tokens : List Token} (nonempty : tokens ≠ [])
    (writable : ∀ token ∈ tokens, token.Writable) :
    read (ofTokens tokens).text = .ok (ofTokens tokens) := by
  rcases List.exists_cons_of_ne_nil nonempty with ⟨first, rest, rfl⟩
  rcases List.forall_mem_cons.mp writable with ⟨firstWritable, restWritable⟩
  apply read_of_spells
  rw [pieces_eq_of_joins (joins_text rfl)]
  refine .cons firstWritable.spells_text ?_
  rw [List.forall₂_map_left_iff, List.forall₂_same]
  intro token member
  exact (restWritable token member).spells_text.cons_blank rfl

theorem read_text_of_read {text : String} {sequence : Sequence}
    (success : read text = .ok sequence) :
    read sequence.text = .ok sequence := by
  rcases read_cases text with
    ⟨tokens, spells, isRead⟩ | ⟨token, reason, failure⟩
  · rw [isRead] at success
    cases success
    apply read_text (wellFormed_of_read isRead).nonempty
    intro token member
    rcases spells_of_mem spells member with ⟨piece, pieceSpells⟩
    exact pieceSpells.writable
  · rw [failure] at success
    cases success

/-! ## Zeros -/

/-- A text of zeros only. -/
def zeros (width : Nat) : String :=
  String.ofList (List.replicate width '0')

theorem text_zero (width : Nat) :
    (ofTokens [⟨0, 0, width + 1⟩]).text = zeros (width + 1) := by
  have written : Token.text ⟨0, 0, width + 1⟩ =
      List.replicate (width + 1) '0' := by
    have single : Token.text ⟨0, 0, width + 1⟩ =
        paddedNumeral (width + 1) 0 := if_pos rfl
    rw [List.replicate_succ', single, paddedNumeral, numeral_zero]
    rfl
  rw [text, ofTokens, List.map_singleton, written]
  rfl

/-- However many zeros there are, they are read as one token. -/
theorem read_zeros (width : Nat) :
    read (zeros (width + 1)) = .ok (ofTokens [⟨0, 0, width + 1⟩]) := by
  rw [← text_zero]
  apply read_text (List.cons_ne_nil _ _)
  rw [List.forall_mem_singleton]
  refine ⟨Nat.le_refl _, Nat.zero_le _, ?_⟩
  rw [numeral_zero]
  exact Nat.le_add_left 1 width

theorem ofTokens_zero (width : Nat) :
    ofTokens [⟨0, 0, width⟩] = ⟨[⟨0, 0, width⟩], [⟨0, 0⟩]⟩ := by
  rw [ofTokens, Run.merge, List.map_singleton, List.mergeSort_singleton]
  rfl

theorem readContiguous_zeros (width : Nat) :
    readContiguous (zeros (width + 1)) =
      .ok (ofTokens [⟨0, 0, width + 1⟩]) := by
  rw [readContiguous, read_zeros, ofTokens_zero]
  rfl

theorem stretches_zero (width : Nat) :
    (ofTokens [⟨0, 0, width⟩]).stretches = [⟨width, ⟨0, 0⟩⟩] := by
  have nothing : Run.merge [] = [] := by
    rw [Run.merge, List.mergeSort_nil]
    rfl
  rw [ofTokens_zero, stretches, Stretch.ofTokens, Stretch.ofTokens,
    List.map_nil, nothing]
  rfl

theorem names?_zero {width : Nat} (wide : widestPadding < width)
    (pattern : String) : (ofTokens [⟨0, 0, width⟩]).names? pattern = none := by
  have unable : Stretch.canPad ⟨width, ⟨0, 0⟩⟩ = false :=
    canPad_eq_false_iff.mpr wide
  simp [names?, stretches_zero, unable]

/-! ## Padding -/

theorem text?_eq_none_iff {sequence : Sequence} :
    sequence.text? = none ↔
      ∃ token ∈ sequence.tokens, widestPadding < token.width :=
  ite_all_canPad_eq_none_iff

theorem text_eq_of_text? {sequence : Sequence} {written : String}
    (isWritten : sequence.text? = some written) :
    sequence.text = written := by
  rw [text?] at isWritten
  split at isWritten
  next able => exact Option.some.inj isWritten
  next unable => cases isWritten

/--
What has been read and is written again is read as the same tokens with the
same runs, so that it gives the same names and the same text.  Two texts that
are read are written alike exactly if they have the same tokens.

Writing breaks off exactly if some token is too wide to be padded.
-/
theorem written_form_is_normal {text : String} {sequence : Sequence}
    (success : read text = .ok sequence) :
    (∃ again, read sequence.text = .ok again ∧
      again.tokens = sequence.tokens ∧ again.runs = sequence.runs ∧
      (∀ pattern, again.names pattern = sequence.names pattern) ∧
      again.text = sequence.text) ∧
    (∀ other others, read other = .ok others →
      (others.text = sequence.text ↔ others.tokens = sequence.tokens)) ∧
    (sequence.text? = none ↔
      ∃ token ∈ sequence.tokens, widestPadding < token.width) ∧
    ∀ written, sequence.text? = some written →
      ∃ again, read written = .ok again ∧
        again.tokens = sequence.tokens ∧ again.runs = sequence.runs ∧
        (∀ pattern, again.names? pattern = sequence.names? pattern) ∧
        again.text? = some written := by
  have back := read_text_of_read success
  refine ⟨⟨sequence, back, rfl, rfl, fun _ => rfl, rfl⟩, ?_,
    text?_eq_none_iff, ?_⟩
  · intro other others otherSuccess
    constructor
    · intro sameText
      have otherBack := read_text_of_read otherSuccess
      rw [sameText, back] at otherBack
      cases otherBack
      rfl
    · intro sameTokens
      rw [Sequence.text, sameTokens]
      rfl
  · intro written isWritten
    rw [text_eq_of_text? isWritten] at back
    exact ⟨sequence, back, rfl, rfl, fun _ => rfl, isWritten⟩

/-- Blanks, zeros of an upper bound and a range of one number are dropped. -/
theorem written_form_of_loose_text :
    read "01-1 , 3 -\t0007,007" =
        .ok (ofTokens [⟨1, 1, 2⟩, ⟨3, 7, 1⟩, ⟨7, 7, 3⟩]) ∧
      (ofTokens [⟨1, 1, 2⟩, ⟨3, 7, 1⟩, ⟨7, 7, 3⟩]).text = "01, 3-7, 007" ∧
      ∃ again, read "01, 3-7, 007" = .ok again ∧
        again.tokens = [⟨1, 1, 2⟩, ⟨3, 7, 1⟩, ⟨7, 7, 3⟩] := by
  have success : read "01-1 , 3 -\t0007,007" =
      .ok (ofTokens [⟨1, 1, 2⟩, ⟨3, 7, 1⟩, ⟨7, 7, 3⟩]) :=
    read_of_readTokens (by decide +kernel) rfl
  have written : (ofTokens [⟨1, 1, 2⟩, ⟨3, 7, 1⟩, ⟨7, 7, 3⟩]).text =
      "01, 3-7, 007" := by
    decide +kernel
  rcases (written_form_is_normal success).1 with
    ⟨again, isRead, sameTokens, -⟩
  rw [written] at isRead
  exact ⟨success, written, again, isRead, sameTokens⟩

end Sequence

end MediaHash
