import MediaHash.Proofs.Encoding.Utf8

/-!
# The order of bytes is the order of characters

UTF-8 keeps order.  A greater scalar value has a form that is at least as
long, the first byte grows with the length of the form, and within one form
the bytes are the digits of the scalar value, the most significant first.
Texts are therefore in ascending order exactly if their bytes are.
-/

namespace MediaHash.Encoding

open Text (toNat_ofNat_of_valid)

section Bytes

variable {left right : UInt8} {leftRest rightRest : List UInt8}

theorem cons_lt_cons_of_toNat_lt (below : left.toNat < right.toNat) :
    left :: leftRest < right :: rightRest :=
  List.cons_lt_cons_iff.mpr (.inl below)

theorem cons_lt_cons_of_toNat_le (atMost : left.toNat ≤ right.toNat)
    (later : left.toNat = right.toNat → leftRest < rightRest) :
    left :: leftRest < right :: rightRest := by
  rcases Nat.lt_or_eq_of_le atMost with below | same
  · exact cons_lt_cons_of_toNat_lt below
  · exact List.cons_lt_cons_iff.mpr
      (.inr ⟨UInt8.toNat_inj.mp same, later same⟩)

end Bytes

theorem toNat_ofNat_one {first : UInt8} (below : first.toNat < 0x80) :
    (Char.ofNat first.toNat).toNat = first.toNat :=
  toNat_ofNat_of_valid (Or.inl (by omega))

/-- The bounds of a form on its first byte and on its scalar value. -/
inductive FormBounds (lead code : Nat) : Nat → Prop
  | one (leadBelow : lead < 0x80) (below : code < 0x80) :
      FormBounds lead code 1
  | two (leadAbove : 0xC2 ≤ lead) (leadBelow : lead < 0xE0)
      (above : 0x80 ≤ code) (below : code < 0x800) : FormBounds lead code 2
  | three (leadAbove : 0xE0 ≤ lead) (leadBelow : lead < 0xF0)
      (above : 0x800 ≤ code) (below : code < 0x10000) :
      FormBounds lead code 3
  | four (leadAbove : 0xF0 ≤ lead) (above : 0x10000 ≤ code) :
      FormBounds lead code 4

theorem Utf8Form.bounds {bytes : List UInt8} {letter : Char}
    (form : Utf8Form bytes letter) :
    ∃ lead tail, bytes = lead :: tail ∧
      FormBounds lead.toNat letter.toNat bytes.length := by
  cases form with
  | one first below =>
      refine ⟨first, [], rfl, .one below ?_⟩
      rwa [toNat_ofNat_one below]
  | two first second above most next =>
      have code := toNat_joinTwo most next
      rw [isContinuation_iff] at next
      exact ⟨first, [second], rfl,
        .two above (by omega) (by omega) (by omega)⟩
  | three first second third above most next last =>
      have code := toNat_joinThree above most next last
      rw [isSecondOfThree_iff] at next
      rw [isContinuation_iff] at last
      exact ⟨first, [second, third], rfl,
        .three above (by omega) (by omega) (by omega)⟩
  | four first second third fourth above most next further last =>
      have code := toNat_joinFour above most next further last
      rw [isSecondOfFour_iff] at next
      exact ⟨first, [second, third, fourth], rfl, .four above (by omega)⟩

section Forms

variable {leftBytes rightBytes : List UInt8} {left right : Char}
  (leftForm : Utf8Form leftBytes left) (rightForm : Utf8Form rightBytes right)

include leftForm rightForm

theorem Utf8Form.length_le (below : left.toNat < right.toNat) :
    leftBytes.length ≤ rightBytes.length := by
  rcases leftForm.bounds with ⟨leftLead, -, -, leftBounds⟩
  rcases rightForm.bounds with ⟨rightLead, -, -, rightBounds⟩
  generalize leftBytes.length = leftLength at leftBounds
  generalize rightBytes.length = rightLength at rightBounds
  cases leftBounds <;> cases rightBounds <;> omega

theorem Utf8Form.append_lt_append_of_length_lt
    (shorter : leftBytes.length < rightBytes.length)
    (leftRest rightRest : List UInt8) :
    leftBytes ++ leftRest < rightBytes ++ rightRest := by
  rcases leftForm.bounds with ⟨leftLead, leftTail, rfl, leftBounds⟩
  rcases rightForm.bounds with ⟨rightLead, rightTail, rfl, rightBounds⟩
  refine cons_lt_cons_of_toNat_lt ?_
  generalize (leftLead :: leftTail).length = leftLength at *
  generalize (rightLead :: rightTail).length = rightLength at *
  cases leftBounds <;> cases rightBounds <;> omega

theorem Utf8Form.append_lt_append_of_length_eq
    (same : leftBytes.length = rightBytes.length)
    (codes : left.toNat < right.toNat) (leftRest rightRest : List UInt8) :
    leftBytes ++ leftRest < rightBytes ++ rightRest := by
  cases leftForm with
  | one first below =>
      rcases rightForm with ⟨other, otherBelow⟩ | _ | _ | _
      all_goals cases same
      rw [toNat_ofNat_one below, toNat_ofNat_one otherBelow] at codes
      exact cons_lt_cons_of_toNat_lt codes
  | two first second above most next =>
      rcases rightForm with
        _ | ⟨other, otherSecond, otherAbove, otherMost, otherNext⟩ | _ | _
      all_goals cases same
      rw [toNat_joinTwo most next, toNat_joinTwo otherMost otherNext]
        at codes
      rw [isContinuation_iff] at next otherNext
      refine cons_lt_cons_of_toNat_le (by omega) fun sameFirst => ?_
      exact cons_lt_cons_of_toNat_lt (by omega)
  | three first second third above most next last =>
      rcases rightForm with
        _ | _ | ⟨other, otherSecond, otherThird, otherAbove, otherMost,
          otherNext, otherLast⟩ | _
      all_goals cases same
      rw [toNat_joinThree above most next last,
        toNat_joinThree otherAbove otherMost otherNext otherLast] at codes
      rw [isSecondOfThree_iff] at next otherNext
      rw [isContinuation_iff] at last otherLast
      refine cons_lt_cons_of_toNat_le (by omega) fun sameFirst => ?_
      refine cons_lt_cons_of_toNat_le (by omega) fun sameSecond => ?_
      exact cons_lt_cons_of_toNat_lt (by omega)
  | four first second third fourth above most next further last =>
      rcases rightForm with
        _ | _ | _ | ⟨other, otherSecond, otherThird, otherFourth, otherAbove,
          otherMost, otherNext, otherFurther, otherLast⟩
      all_goals cases same
      rw [toNat_joinFour above most next further last, toNat_joinFour
        otherAbove otherMost otherNext otherFurther otherLast] at codes
      rw [isSecondOfFour_iff] at next otherNext
      rw [isContinuation_iff] at further last otherFurther otherLast
      refine cons_lt_cons_of_toNat_le (by omega) fun sameFirst => ?_
      refine cons_lt_cons_of_toNat_le (by omega) fun sameSecond => ?_
      refine cons_lt_cons_of_toNat_le (by omega) fun sameThird => ?_
      exact cons_lt_cons_of_toNat_lt (by omega)

end Forms

/-- Neither form begins the other, so what follows does not count. -/
theorem utf8Bytes_append_lt {left right : Char} (below : left < right)
    (leftRest rightRest : List UInt8) :
    utf8Bytes left ++ leftRest < utf8Bytes right ++ rightRest := by
  have leftForm := form_utf8Bytes left
  have rightForm := form_utf8Bytes right
  rcases Nat.lt_or_eq_of_le (leftForm.length_le rightForm below) with
    shorter | same
  · exact leftForm.append_lt_append_of_length_lt rightForm shorter _ _
  · exact leftForm.append_lt_append_of_length_eq rightForm same below _ _

theorem flatMap_utf8Bytes_lt {left right : List Char} (below : left < right) :
    left.flatMap utf8Bytes < right.flatMap utf8Bytes := by
  induction left generalizing right with
  | nil =>
      cases right with
      | nil => exact absurd below (List.not_lt_nil [])
      | cons letter rest =>
          rcases (form_utf8Bytes letter).bounds with ⟨lead, tail, bytes, -⟩
          rw [List.flatMap_nil, List.flatMap_cons, bytes]
          exact List.nil_lt_cons _ _
  | cons letter rest inductionHypothesis =>
      cases right with
      | nil => exact absurd below (List.not_lt_nil _)
      | cons other otherRest =>
          rw [List.flatMap_cons, List.flatMap_cons]
          rcases List.cons_lt_cons_iff.mp below with here | ⟨rfl, later⟩
          · exact utf8Bytes_append_lt here _ _
          · exact List.append_left_lt (inductionHypothesis later)

/-- Texts are in the order of their bytes. -/
theorem writeUtf8_lt_iff {left right : String} :
    writeUtf8 left < writeUtf8 right ↔ left < right := by
  constructor
  · intro bytesBelow
    rcases Std.lt_trichotomy left right with below | rfl | above
    · exact below
    · exact absurd bytesBelow (List.lt_irrefl _)
    · exact absurd bytesBelow (List.lt_asymm (flatMap_utf8Bytes_lt above))
  · exact flatMap_utf8Bytes_lt

end MediaHash.Encoding
