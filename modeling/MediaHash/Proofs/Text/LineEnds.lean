import Mathlib.Data.List.Basic
import MediaHash.Proofs.Text.Splitting

/-!
# How lines end

A line may end in a line feed or in a carriage return and a line feed, and
the last line may lack its end.  The normal form of a text writes every end
as one line feed and leaves none out.

A text in normal form is its lines with a line feed behind each, so two texts
have the same lines exactly if they have the same normal form.
-/

namespace MediaHash.Text

/-! ## The normal form -/

/-- A line feed for every carriage return and line feed. -/
def feedsOnly : List Char → List Char
  | [] => []
  | '\r' :: '\n' :: rest => '\n' :: feedsOnly rest
  | letter :: rest => letter :: feedsOnly rest

/-- The text with a line feed behind its last line. -/
def closeLine (text : List Char) : List Char :=
  if IsClosed text then text else text ++ ['\n']

/-- The text with one line feed at the end of each line. -/
def normalEnds (text : List Char) : List Char :=
  closeLine (feedsOnly text)

theorem feedsOnly_cons {letter : Char} {rest : List Char}
    (notBoth : letter = '\r' → rest.head? ≠ some '\n') :
    feedsOnly (letter :: rest) = letter :: feedsOnly rest := by
  rw [feedsOnly]
  rintro tail isReturn rfl
  exact notBoth isReturn rfl

theorem feedsOnly_ne_nil {text : List Char} (nonempty : text ≠ []) :
    feedsOnly text ≠ [] := by
  fun_cases feedsOnly text with
  | case1 => exact absurd rfl nonempty
  | case2 rest => exact List.cons_ne_nil _ _
  | case3 letter rest notBoth => exact List.cons_ne_nil _ _

theorem closeLine_lineFeed (rest : List Char) :
    closeLine ('\n' :: rest) = '\n' :: closeLine rest := by
  simp only [closeLine, isClosed_cons_lineFeed]
  split
  next => rfl
  next => rfl

theorem closeLine_cons {letter : Char} {rest : List Char}
    (nonempty : rest ≠ []) :
    closeLine (letter :: rest) = letter :: closeLine rest := by
  rcases List.exists_cons_of_ne_nil nonempty with ⟨next, tail, rfl⟩
  simp only [closeLine, isClosed_cons_cons]
  split
  next => rfl
  next => rfl

theorem closeLine_singleton {letter : Char} (notFeed : letter ≠ '\n') :
    closeLine [letter] = [letter, '\n'] :=
  if_neg (by simp [IsClosed, notFeed])

/-- The text that is made up of lines with a line feed behind each. -/
def withFeeds (lines : List (List Char)) : List Char :=
  lines.flatMap (· ++ ['\n'])

theorem withFeeds_extendFirst {letter : Char} {lines : List (List Char)}
    (nonempty : lines ≠ []) :
    withFeeds (extendFirst letter lines) = letter :: withFeeds lines := by
  cases lines with
  | nil => exact absurd rfl nonempty
  | cons first rest => rfl

/-- The normal form of a text is made up of its lines. -/
theorem normalEnds_eq_withFeeds (text : List Char) :
    normalEnds text = withFeeds (lines text) := by
  fun_induction lines text with
  | case1 => rfl
  | case2 rest ih =>
      rw [normalEnds, feedsOnly_cons (by simp), closeLine_lineFeed,
        ← normalEnds, ih]
      rfl
  | case3 rest ih =>
      rw [normalEnds, feedsOnly, closeLine_lineFeed, ← normalEnds, ih]
      rfl
  | case4 letter rest notFeed notReturn ih =>
      cases rest with
      | nil =>
          rw [normalEnds, feedsOnly_cons (by simp)]
          exact closeLine_singleton notFeed
      | cons next rest =>
          have notBoth : letter = '\r' →
              (next :: rest).head? ≠ some '\n' := by
            intro isReturn isFeed
            rcases Option.some.inj isFeed with rfl
            exact notReturn rest isReturn rfl
          have more := List.cons_ne_nil next rest
          rw [normalEnds, feedsOnly_cons notBoth,
            closeLine_cons (feedsOnly_ne_nil more), ← normalEnds, ih,
            withFeeds_extendFirst (lines_ne_nil more)]

/-! ## Texts with the same lines -/

theorem lineFeed_not_mem_of_mem_lines {text line : List Char}
    (member : line ∈ lines text) : '\n' ∉ line := by
  fun_induction lines text generalizing line with
  | case1 => cases member
  | case2 rest ih =>
      rcases List.mem_cons.mp member with rfl | later
      · exact List.not_mem_nil
      · exact ih later
  | case3 rest ih =>
      rcases List.mem_cons.mp member with rfl | later
      · exact List.not_mem_nil
      · exact ih later
  | case4 letter rest notFeed notReturn ih =>
      cases split : lines rest with
      | nil =>
          rw [split, extendFirst, List.mem_singleton] at member
          simp [member, Ne.symm notFeed]
      | cons first others =>
          rw [split] at ih member
          rcases List.mem_cons.mp member with rfl | later
          · simp [Ne.symm notFeed, ih List.mem_cons_self]
          · exact ih (List.mem_cons_of_mem first later)

/-- Lines without a line feed are the pieces between the line feeds. -/
theorem pieces_withFeeds {lines : List (List Char)}
    (oneLine : ∀ line ∈ lines, '\n' ∉ line) :
    pieces '\n' (withFeeds lines) = lines ++ [[]] := by
  induction lines with
  | nil => rfl
  | cons line rest ih =>
      rcases List.forall_mem_cons.mp oneLine with ⟨here, later⟩
      rw [withFeeds, List.flatMap_cons, List.append_assoc,
        List.singleton_append, pieces_append here]
      exact congrArg (line :: ·) (ih later)

theorem eq_of_withFeeds_eq {left right : List (List Char)}
    (leftOneLine : ∀ line ∈ left, '\n' ∉ line)
    (rightOneLine : ∀ line ∈ right, '\n' ∉ line)
    (same : withFeeds left = withFeeds right) : left = right := by
  have samePieces := congrArg (pieces '\n') same
  rw [pieces_withFeeds leftOneLine, pieces_withFeeds rightOneLine] at samePieces
  exact List.append_cancel_right samePieces

/-- Texts have the same lines if they have the same normal form. -/
theorem lines_eq_iff {left right : List Char} :
    lines left = lines right ↔ normalEnds left = normalEnds right := by
  rw [normalEnds_eq_withFeeds, normalEnds_eq_withFeeds]
  constructor
  · intro same
    rw [same]
  · exact eq_of_withFeeds_eq (fun _ => lineFeed_not_mem_of_mem_lines)
      fun _ => lineFeed_not_mem_of_mem_lines

/--
The lines hold no line feed and, with a line feed behind each, make up the
normal form of the text.
-/
structure Divides (text : String) (lines : List String) : Prop where
  oneLine : ∀ line ∈ lines, '\n' ∉ line.toList
  normal : withFeeds (lines.map String.toList) = normalEnds text.toList

theorem divides_linesOf (text : String) : Divides text (linesOf text) where
  oneLine := by
    intro line member
    rcases List.mem_map.mp member with ⟨letters, isLine, rfl⟩
    rw [String.toList_ofList]
    exact lineFeed_not_mem_of_mem_lines isLine
  normal := by
    simp [linesOf, normalEnds_eq_withFeeds, Function.comp_def]

/-- A text has one division into lines. -/
theorem divides_iff {text : String} {lines : List String} :
    Divides text lines ↔ lines = linesOf text := by
  constructor
  · intro divides
    have made := divides_linesOf text
    have oneLine (given : List String)
        (texts : ∀ line ∈ given, '\n' ∉ line.toList) :
        ∀ letters ∈ given.map String.toList, '\n' ∉ letters :=
      List.forall_mem_map.mpr texts
    have same := eq_of_withFeeds_eq (oneLine lines divides.oneLine)
      (oneLine (linesOf text) made.oneLine)
      (divides.normal.trans made.normal.symm)
    exact (List.map_inj_right fun _ _ => String.toList_injective).mp same
  · rintro rfl
    exact divides_linesOf text

theorem linesOf_eq_iff {left right : String} :
    linesOf left = linesOf right ↔
      normalEnds left.toList = normalEnds right.toList := by
  rw [← lines_eq_iff]
  exact List.map_inj_right fun _ _ => String.ofList_injective

/-! ## Carriage returns put in front of line feeds -/

/-- Some line feeds of the text have a carriage return in front in another. -/
inductive Respelled : List Char → List Char → Prop
  | nil : Respelled [] []
  | keep {text other : List Char} (letter : Char)
      (rest : Respelled text other) :
      Respelled (letter :: text) (letter :: other)
  | mark {text other : List Char} (rest : Respelled text other) :
      Respelled ('\n' :: text) ('\r' :: '\n' :: other)

/-- The two ways to end a line. -/
def lineEnds : List (List Char) :=
  [['\n'], ['\r', '\n']]

theorem respelled_of_mem_lineEnds {ending : List Char}
    (isEnding : ending ∈ lineEnds) : Respelled ['\n'] ending := by
  rcases List.mem_pair.mp isEnding with rfl | rfl
  · exact .keep '\n' .nil
  · exact .mark .nil

namespace Respelled

variable {text other : List Char}

theorem refl (text : List Char) : Respelled text text := by
  induction text with
  | nil => exact .nil
  | cons letter rest ih => exact .keep letter ih

theorem append {more otherMore : List Char} (respelled : Respelled text other)
    (rest : Respelled more otherMore) :
    Respelled (text ++ more) (other ++ otherMore) := by
  induction respelled with
  | nil => exact rest
  | keep letter respelled ih => exact .keep letter ih
  | mark respelled ih => exact .mark ih

theorem lines_eq (respelled : Respelled text other)
    (noReturn : '\r' ∉ text) : lines other = lines text := by
  induction respelled with
  | nil => rfl
  | @keep text other letter rest ih =>
      simp only [List.mem_cons, not_or] at noReturn
      rcases noReturn with ⟨notReturn, restNoReturn⟩
      by_cases isFeed : letter = '\n'
      · rw [isFeed, lines_lineFeed, lines_lineFeed, ih restNoReturn]
      · have lone (tail : List Char) : letter = '\r' →
            tail.head? ≠ some '\n' := fun same => absurd same.symm notReturn
        rw [lines_cons isFeed (lone other), lines_cons isFeed (lone text),
          ih restNoReturn]
  | @mark text other rest ih =>
      simp only [List.mem_cons, not_or] at noReturn
      rw [lines_lineFeed, lines, ih noReturn.2]

/-- Every carriage return is one that was put in front of a line feed. -/
theorem head?_of_return (respelled : Respelled text other)
    (noReturn : '\r' ∉ text) {before after : List Char}
    (split : other = before ++ '\r' :: after) : after.head? = some '\n' := by
  induction respelled generalizing before with
  | nil => simp at split
  | @keep text other letter rest ih =>
      simp only [List.mem_cons, not_or] at noReturn
      rcases noReturn with ⟨notReturn, restNoReturn⟩
      cases before with
      | nil => exact absurd (List.cons.inj split).1.symm notReturn
      | cons first before => exact ih restNoReturn (List.cons.inj split).2
  | @mark text other rest ih =>
      simp only [List.mem_cons, not_or] at noReturn
      match before, split with
      | [], split =>
          rw [← (List.cons.inj split).2]
          rfl
      | [first], split => simp at split
      | first :: second :: before, split =>
          simp only [List.cons_append, List.cons.injEq] at split
          exact ih noReturn.2 split.2.2

end Respelled

end MediaHash.Text
