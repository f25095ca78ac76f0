import MediaHash.Check.Lines
import MediaHash.Proofs.Text.LineEnds

/-!
# Two texts compared line by line

Texts with different numbers of lines get one verdict on these numbers.  Else
each line gets a verdict of its own, in order, which carries both lines where
they differ.

All verdicts are matches exactly if the texts have the same lines, that is,
if they differ at most in how their lines end.
-/

namespace MediaHash

/-- The verdict with what is expected and what is found exchanged. -/
def Verdict.exchanged : Verdict → Verdict
  | .matched fact path => .matched fact path
  | .mismatch fact kind path expected actual =>
      .mismatch fact kind path actual expected

namespace Check

/-! ## One line -/

/-- The verdict on a line where another one is expected. -/
inductive LineJudged (index : Nat) (expected actual : String) :
    Verdict → Prop
  | same (equal : expected = actual) :
      LineJudged index expected actual (.matched (.line index) none)
  | differs (different : expected ≠ actual) :
      LineJudged index expected actual
        (.mismatch (.line index) .lineMismatch none expected actual)

theorem lineJudged_compareLine (index : Nat) (expected actual : String) :
    LineJudged index expected actual (compareLine index expected actual) := by
  rw [compareLine]
  split
  next equal => exact .same equal
  next different => exact .differs different

theorem isMatch_compareLine_iff {index : Nat} {expected actual : String} :
    (compareLine index expected actual).isMatch = true ↔
      expected = actual := by
  rw [compareLine]
  split
  next equal => exact iff_of_true rfl equal
  next different => exact iff_of_false Bool.false_ne_true different

theorem compareLine_swap (index : Nat) (expected actual : String) :
    compareLine index actual expected =
      (compareLine index expected actual).exchanged := by
  by_cases equal : expected = actual
  · rw [equal, compareLine, if_pos rfl]
    rfl
  · rw [compareLine, compareLine, if_neg equal, if_neg (Ne.symm equal)]
    rfl

/-! ## Lines of equal number -/

section From

variable {reference candidate : List String}

theorem length_compareFrom (index : Nat)
    (equalLength : reference.length = candidate.length) :
    (compareFrom index reference candidate).length = reference.length := by
  induction reference generalizing index candidate with
  | nil => rfl
  | cons expected reference ih =>
      cases candidate with
      | nil => cases equalLength
      | cons actual candidate =>
          simp only [compareFrom, List.length_cons]
          rw [ih (index + 1) (Nat.succ.inj equalLength)]

/-- The verdict in each place is the one on the two lines there. -/
theorem lineJudged_of_getElem? {index place : Nat}
    {expected actual : String} {verdict : Verdict}
    (isExpected : reference[place]? = some expected)
    (isActual : candidate[place]? = some actual)
    (isVerdict :
      (compareFrom index reference candidate)[place]? = some verdict) :
    LineJudged (index + place) expected actual verdict := by
  induction reference generalizing index place candidate with
  | nil => simp at isExpected
  | cons line reference ih =>
      cases candidate with
      | nil => simp at isActual
      | cons other candidate =>
          rw [compareFrom] at isVerdict
          cases place with
          | zero =>
              simp only [List.getElem?_cons_zero, Option.some.injEq]
                at isExpected isActual isVerdict
              rw [← isExpected, ← isActual, ← isVerdict]
              exact lineJudged_compareLine index line other
          | succ place =>
              rw [List.getElem?_cons_succ] at isExpected isActual isVerdict
              have later := ih isExpected isActual isVerdict
              rwa [Nat.add_right_comm] at later

theorem all_compareFrom_iff (index : Nat)
    (equalLength : reference.length = candidate.length) :
    (compareFrom index reference candidate).all Verdict.isMatch = true ↔
      reference = candidate := by
  induction reference generalizing index candidate with
  | nil =>
      cases candidate with
      | nil => exact iff_of_true rfl rfl
      | cons actual candidate => cases equalLength
  | cons expected reference ih =>
      cases candidate with
      | nil => cases equalLength
      | cons actual candidate =>
          rw [compareFrom, List.all_cons, Bool.and_eq_true,
            isMatch_compareLine_iff, ih (index + 1) (Nat.succ.inj equalLength),
            List.cons.injEq]

theorem compareFrom_swap (index : Nat) (reference candidate : List String) :
    compareFrom index candidate reference =
      (compareFrom index reference candidate).map Verdict.exchanged := by
  induction reference generalizing index candidate with
  | nil => cases candidate <;> rfl
  | cons expected reference ih =>
      cases candidate with
      | nil => rfl
      | cons actual candidate =>
          rw [compareFrom, compareFrom, List.map_cons, compareLine_swap, ih]

end From

/-! ## Lines of any number -/

/-- The verdicts on lines where others are expected. -/
inductive LinesJudged (expected actual : List String) : List Verdict → Prop
  | counted (different : expected.length ≠ actual.length) :
      LinesJudged expected actual
        [.mismatch .lineCount .lineCountMismatch none
          (Text.decimal expected.length) (Text.decimal actual.length)]
  | compared {verdicts : List Verdict}
      (equalLength : expected.length = actual.length)
      (one : verdicts.length = expected.length)
      (judged : ∀ index line other verdict,
        expected[index]? = some line → actual[index]? = some other →
        verdicts[index]? = some verdict →
        LineJudged index line other verdict) :
      LinesJudged expected actual verdicts

section Lines

variable {reference candidate : List String}

theorem linesJudged_compareLines (reference candidate : List String) :
    LinesJudged reference candidate (compareLines reference candidate) := by
  rw [compareLines]
  split
  next equalLength =>
    refine .compared equalLength (length_compareFrom 0 equalLength) ?_
    intro index line other verdict isExpected isActual isVerdict
    have judged := lineJudged_of_getElem? isExpected isActual isVerdict
    rwa [Nat.zero_add] at judged
  next different => exact .counted different

theorem all_compareLines_iff :
    (compareLines reference candidate).all Verdict.isMatch = true ↔
      reference = candidate := by
  rw [compareLines]
  split
  next equalLength => exact all_compareFrom_iff 0 equalLength
  next different =>
    exact iff_of_false Bool.false_ne_true
      fun same => different (congrArg List.length same)

theorem compareLines_swap (reference candidate : List String) :
    compareLines candidate reference =
      (compareLines reference candidate).map Verdict.exchanged := by
  simp only [compareLines, eq_comm (a := candidate.length)]
  split
  next => exact compareFrom_swap 0 reference candidate
  next => rfl

end Lines

/-! ## Texts -/

/-- Every verdict on the second text, compared with the first, is a match. -/
def Passes (reference candidate : String) : Prop :=
  (compareTexts reference candidate).all Verdict.isMatch = true

theorem passes_iff {reference candidate : String} :
    Passes reference candidate ↔
      Text.normalEnds reference.toList = Text.normalEnds candidate.toList := by
  rw [Passes, compareTexts, all_compareLines_iff, Text.linesOf_eq_iff]

/--
A text passes the comparison with another exactly if both have the same normal
form.  The verdicts are on the numbers of lines if these differ, or else one on
each line in its place.  Exchanging the texts exchanges what is expected and
what is found, so that passing is an equivalence.
-/
theorem compareTexts_up_to_line_ends :
    (∀ reference candidate : String,
      (Passes reference candidate ↔
        Text.normalEnds reference.toList =
          Text.normalEnds candidate.toList) ∧
      LinesJudged (Text.linesOf reference) (Text.linesOf candidate)
        (compareTexts reference candidate) ∧
      compareTexts candidate reference =
        (compareTexts reference candidate).map Verdict.exchanged) ∧
    (∀ text lines, Text.Divides text lines ↔ lines = Text.linesOf text) ∧
    Equivalence Passes := by
  refine ⟨fun reference candidate => ⟨passes_iff, ?_, ?_⟩,
    fun text lines => Text.divides_iff, ?_⟩
  · exact linesJudged_compareLines _ _
  · exact compareLines_swap _ _
  · exact ⟨fun text => passes_iff.mpr rfl,
      fun passes => passes_iff.mpr (passes_iff.mp passes).symm,
      fun first second => passes_iff.mpr
        ((passes_iff.mp first).trans (passes_iff.mp second))⟩

/-- A lone return belongs to its line, and the empty text has no line. -/
example :
    compareTexts "a\r" "a\r\r\n" = [.matched (.line 0) none] ∧
      compareTexts "" "\n" =
        [.mismatch .lineCount .lineCountMismatch none "0" "1"] := by
  decide +kernel

end Check

end MediaHash
