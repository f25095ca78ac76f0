import MediaHash.Proofs.Text.Splitting
import MediaHash.Sequence.Names
import MediaHash.Text.Search

/-!
# Filling a pattern

The marks of a pattern cut it into parts in which no mark occurs.  Two
occurrences of the mark never overlap, so there is one way only to cut a
pattern, and a scan from the left finds it.  Filling a pattern puts the
filling between the parts in the place of every mark.  Where there is a mark,
different fillings give different texts: their lengths tell how long the
filling is, and the first part tells where it begins.
-/

namespace MediaHash

namespace Text

/-- Parts in which a mark does not occur and that make up a text with it. -/
structure Cuts (mark : List Char) (parts : List (List Char))
    (text : List Char) : Prop where
  nonempty : parts ≠ []
  free : ∀ part ∈ parts, occursIn mark part = false
  joined : mark.intercalate parts = text

end Text

open Text

/-- The text that stands for the number in a pattern. -/
def numberMark : List Char :=
  ['{', 'N', '}']

/-- The parts of a pattern between its marks. -/
def cutPattern : List Char → List (List Char)
  | [] => [[]]
  | '{' :: 'N' :: '}' :: rest => [] :: cutPattern rest
  | letter :: rest => extendFirst letter (cutPattern rest)

theorem cutPattern_mark (rest : List Char) :
    cutPattern (numberMark ++ rest) = [] :: cutPattern rest := by
  simp [numberMark, cutPattern]

/-- The equations of the scans speak of the letters of the mark. -/
theorem not_mark_prefix_iff {letter : Char} {rest : List Char} :
    ¬ numberMark <+: letter :: rest ↔
      ∀ tail, letter = '{' → rest = 'N' :: '}' :: tail → False := by
  constructor
  · rintro noMark tail rfl rfl
    exact noMark ⟨tail, rfl⟩
  · rintro noLetters ⟨tail, equal⟩
    cases equal
    exact noLetters tail rfl rfl

theorem cutPattern_cons {letter : Char} {rest : List Char}
    (noMark : ¬ numberMark <+: letter :: rest) :
    cutPattern (letter :: rest) = extendFirst letter (cutPattern rest) := by
  rw [cutPattern]
  exact not_mark_prefix_iff.mp noMark

theorem fillPattern_cons {filling rest : List Char} {letter : Char}
    (noMark : ¬ numberMark <+: letter :: rest) :
    fillPattern filling (letter :: rest) =
      letter :: fillPattern filling rest := by
  rw [fillPattern]
  exact not_mark_prefix_iff.mp noMark

theorem cutPattern_ne_nil (text : List Char) : cutPattern text ≠ [] := by
  fun_cases cutPattern text with
  | case1 => exact List.cons_ne_nil _ _
  | case2 rest => exact List.cons_ne_nil _ _
  | case3 letter rest => exact extendFirst_ne_nil letter _

/-! ## A mark occurs where it can be seen from the left -/

theorem occursIn_cons_eq_false_iff {mark rest : List Char} {letter : Char} :
    occursIn mark (letter :: rest) = false ↔
      ¬ mark <+: letter :: rest ∧ occursIn mark rest = false := by
  rw [occursIn, Bool.or_eq_false_iff, ← List.isPrefixOf_iff_prefix,
    Bool.not_eq_true]

/-- No occurrence begins in a part and ends in the mark behind it. -/
theorem not_mark_prefix_append {letter : Char} {tail rest : List Char}
    (noMark : ¬ numberMark <+: letter :: tail) :
    ¬ numberMark <+: letter :: (tail ++ (numberMark ++ rest)) := by
  intro isPrefix
  apply noMark
  rcases tail with _ | ⟨second, _ | ⟨third, tail⟩⟩
  · simp [numberMark] at isPrefix
  · simp [numberMark] at isPrefix
  · simpa [numberMark] using isPrefix

theorem cutPattern_of_free {part : List Char}
    (free : occursIn numberMark part = false) : cutPattern part = [part] := by
  induction part with
  | nil => rfl
  | cons letter tail ih =>
      rcases occursIn_cons_eq_false_iff.mp free with ⟨noMark, tailFree⟩
      rw [cutPattern_cons noMark, ih tailFree, extendFirst_cons]

theorem cutPattern_append {part rest : List Char}
    (free : occursIn numberMark part = false) :
    cutPattern (part ++ (numberMark ++ rest)) = part :: cutPattern rest := by
  induction part with
  | nil => exact cutPattern_mark rest
  | cons letter tail ih =>
      rcases occursIn_cons_eq_false_iff.mp free with ⟨noMark, tailFree⟩
      rw [List.cons_append, cutPattern_cons (not_mark_prefix_append noMark),
        ih tailFree, extendFirst_cons]

/-! ## The one way to cut a pattern -/

theorem intercalate_nil_cons (mark : List Char) {parts : List (List Char)}
    (nonempty : parts ≠ []) :
    mark.intercalate ([] :: parts) = mark ++ mark.intercalate parts := by
  rcases List.exists_cons_of_ne_nil nonempty with ⟨first, others, rfl⟩
  rw [List.intercalate_cons_cons]
  rfl

theorem intercalate_extendFirst (mark : List Char) (letter : Char)
    {parts : List (List Char)} (nonempty : parts ≠ []) :
    mark.intercalate (extendFirst letter parts) =
      letter :: mark.intercalate parts := by
  rcases List.exists_cons_of_ne_nil nonempty with ⟨first, others, rfl⟩
  rw [extendFirst_cons]
  cases others with
  | nil => simp
  | cons second others => simp [List.intercalate_cons_cons]

theorem prefix_intercalate (mark first : List Char)
    (others : List (List Char)) :
    first <+: mark.intercalate (first :: others) := by
  cases others with
  | nil => simp
  | cons second others =>
      rw [List.intercalate_cons_cons, List.append_assoc]
      exact List.prefix_append _ _

namespace Text.Cuts

variable {parts : List (List Char)} {rest : List Char}

theorem mark_append {mark : List Char} (empty : occursIn mark [] = false)
    (cuts : Cuts mark parts rest) :
    Cuts mark ([] :: parts) (mark ++ rest) where
  nonempty := List.cons_ne_nil _ _
  free := List.forall_mem_cons.mpr ⟨empty, cuts.free⟩
  joined := by
    rw [intercalate_nil_cons mark cuts.nonempty, cuts.joined]

/-- A letter that begins no mark is put in front of the first part. -/
theorem extendFirst {letter : Char}
    (noMark : ¬ numberMark <+: letter :: rest)
    (cuts : Cuts numberMark parts rest) :
    Cuts numberMark (extendFirst letter parts) (letter :: rest) := by
  rcases List.exists_cons_of_ne_nil cuts.nonempty with ⟨first, others, rfl⟩
  rcases List.forall_mem_cons.mp cuts.free with ⟨firstFree, othersFree⟩
  have joined := cuts.joined
  -- A mark at the front of the first part would be one of the text.
  have noMarkInPart : ¬ numberMark <+: letter :: first := by
    intro isPrefix
    have within : letter :: first <+: letter :: rest := by
      rw [← joined]
      exact List.cons_prefix_cons.mpr
        ⟨rfl, prefix_intercalate numberMark first others⟩
    exact noMark (isPrefix.trans within)
  constructor
  · exact extendFirst_ne_nil letter _
  · exact List.forall_mem_cons.mpr
      ⟨occursIn_cons_eq_false_iff.mpr ⟨noMarkInPart, firstFree⟩, othersFree⟩
  · rw [intercalate_extendFirst numberMark letter cuts.nonempty, joined]

end Text.Cuts

theorem cuts_cutPattern (text : List Char) :
    Cuts numberMark (cutPattern text) text := by
  fun_induction cutPattern text with
  | case1 => exact ⟨by simp, by simp [numberMark, occursIn], by simp⟩
  | case2 rest ih => exact ih.mark_append rfl
  | case3 letter rest noMark ih =>
      exact ih.extendFirst (not_mark_prefix_iff.mpr noMark)

theorem cutPattern_eq_of_cuts {parts : List (List Char)} {text : List Char}
    (cuts : Cuts numberMark parts text) : cutPattern text = parts := by
  rcases cuts with ⟨nonempty, free, rfl⟩
  induction parts with
  | nil => exact absurd rfl nonempty
  | cons first others ih =>
      rcases List.forall_mem_cons.mp free with ⟨firstFree, othersFree⟩
      cases others with
      | nil =>
          rw [List.intercalate_singleton]
          exact cutPattern_of_free firstFree
      | cons second others =>
          rw [List.intercalate_cons_cons, List.append_assoc,
            cutPattern_append firstFree, ih (by simp) othersFree]

/-- A pattern is cut in one way only. -/
theorem cuts_iff {parts : List (List Char)} {text : List Char} :
    Cuts numberMark parts text ↔ parts = cutPattern text := by
  constructor
  · intro cuts
    exact (cutPattern_eq_of_cuts cuts).symm
  · rintro rfl
    exact cuts_cutPattern text

/-- Filling puts the filling between the parts. -/
theorem fillPattern_eq_intercalate (filling text : List Char) :
    fillPattern filling text = filling.intercalate (cutPattern text) := by
  fun_induction cutPattern text with
  | case1 => simp [fillPattern]
  | case2 rest ih =>
      rw [fillPattern, ih,
        intercalate_nil_cons filling (cutPattern_ne_nil rest)]
  | case3 letter rest noMark ih =>
      rw [intercalate_extendFirst filling letter (cutPattern_ne_nil rest),
        ← ih]
      exact fillPattern_cons (not_mark_prefix_iff.mpr noMark)

/-! ## Different fillings -/

/-- The pattern has a mark in some place. -/
def HasMark (pattern : String) : Prop :=
  ∃ before after, pattern.toList = before ++ numberMark ++ after

theorem one_lt_length_cutPattern {pattern : String}
    (marked : HasMark pattern) :
    1 < (cutPattern pattern.toList).length := by
  have cuts := cuts_cutPattern pattern.toList
  rcases parts : cutPattern pattern.toList with _ | ⟨part, _ | ⟨second, _⟩⟩
  · exact absurd parts (cutPattern_ne_nil pattern.toList)
  · -- Without a cut, the pattern would be its only part, which has no mark.
    rw [parts] at cuts
    have whole : part = pattern.toList := by
      rw [← cuts.joined, List.intercalate_singleton]
    have free : occursIn numberMark pattern.toList = false :=
      whole ▸ cuts.free part List.mem_cons_self
    rw [(occursIn_iff _ _).mpr marked] at free
    cases free
  · simp

theorem length_intercalate (mark : List Char) (parts : List (List Char)) :
    (mark.intercalate parts).length =
      parts.flatten.length + (parts.length - 1) * mark.length := by
  induction parts with
  | nil => simp
  | cons first others ih =>
      cases others with
      | nil => simp
      | cons second others =>
          rw [List.intercalate_cons_cons, List.length_append,
            List.length_append, ih]
          simp only [List.flatten_cons, List.length_append,
            List.length_cons, Nat.add_sub_cancel, Nat.add_mul, Nat.one_mul]
          omega

theorem infix_intercalate (filling : List Char) {parts : List (List Char)}
    (several : 1 < parts.length) :
    filling <:+: filling.intercalate parts := by
  rcases parts with _ | ⟨first, _ | ⟨second, others⟩⟩
  · cases several
  · exact absurd several (Nat.lt_irrefl 1)
  · rw [List.intercalate_cons_cons]
    exact List.infix_append first filling _

/-- What stands between at least two parts can be told from the whole. -/
theorem eq_of_intercalate_eq {parts : List (List Char)}
    (several : 1 < parts.length) {left right : List Char}
    (equal : left.intercalate parts = right.intercalate parts) :
    left = right := by
  have sameLength : left.length = right.length := by
    have total := congrArg List.length equal
    rw [length_intercalate, length_intercalate] at total
    apply Nat.eq_of_mul_eq_mul_left (Nat.sub_pos_of_lt several)
    exact Nat.add_left_cancel total
  rcases parts with _ | ⟨first, _ | ⟨second, others⟩⟩
  · cases several
  · exact absurd several (Nat.lt_irrefl 1)
  · rw [List.intercalate_cons_cons, List.intercalate_cons_cons,
      List.append_assoc, List.append_assoc] at equal
    exact List.append_inj_left (List.append_cancel_left equal) sameLength

end MediaHash
