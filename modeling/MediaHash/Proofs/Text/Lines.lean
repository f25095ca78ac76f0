import MediaHash.Text.Lines

/-!
# Lines and line feeds

A stretch without a line feed that does not end in a carriage return is read
as one line when a line feed follows, and nothing before or after it matters.

A text that is empty or ends in a line feed has no open line.  Whatever is
written behind such a text, the lines of both are read one after the other,
and every text is such a text with at most one open line behind it.
-/

namespace MediaHash.Text

/-! ## The first of several pieces -/

theorem extendFirst_cons (letter : Char) (first : List Char)
    (rest : List (List Char)) :
    extendFirst letter (first :: rest) = (letter :: first) :: rest := rfl

theorem extendFirst_ne_nil (letter : Char) (parts : List (List Char)) :
    extendFirst letter parts ≠ [] := by
  cases parts with
  | nil => exact List.cons_ne_nil _ _
  | cons first others => exact List.cons_ne_nil _ _

theorem extendFirst_append {letter : Char} {first : List (List Char)}
    (nonempty : first ≠ []) (rest : List (List Char)) :
    extendFirst letter (first ++ rest) = extendFirst letter first ++ rest := by
  cases first with
  | nil => exact absurd rfl nonempty
  | cons line others => rfl

theorem foldr_extendFirst_cons (line first : List Char)
    (rest : List (List Char)) :
    line.foldr extendFirst (first :: rest) = (line ++ first) :: rest := by
  induction line with
  | nil => rfl
  | cons letter tail ih =>
      rw [List.foldr_cons, ih]
      rfl

theorem foldr_extendFirst_nil {line : List Char} (nonempty : line ≠ []) :
    line.foldr extendFirst [] = [line] := by
  induction line with
  | nil => exact absurd rfl nonempty
  | cons letter tail ih =>
      cases tail with
      | nil => rfl
      | cons next tail =>
          rw [List.foldr_cons, ih (List.cons_ne_nil next tail)]
          rfl

/-! ## One line -/

theorem lines_cons {letter : Char} {rest : List Char}
    (notFeed : letter ≠ '\n')
    (notReturn : letter = '\r' → rest.head? ≠ some '\n') :
    lines (letter :: rest) = extendFirst letter (lines rest) := by
  rw [lines]
  · exact notFeed
  · rintro tail isReturn rfl
    exact notReturn isReturn rfl

/-- A stretch without a line feed is put in front of the line behind it. -/
theorem lines_append_of_oneLine {line text : List Char}
    (oneLine : '\n' ∉ line)
    (apart : line.getLast? = some '\r' → text.head? ≠ some '\n') :
    lines (line ++ text) = line.foldr extendFirst (lines text) := by
  induction line with
  | nil => rfl
  | cons letter tail ih =>
      simp only [List.mem_cons, not_or] at oneLine
      rcases oneLine with ⟨notFeed, tailOneLine⟩
      cases tail with
      | nil =>
          refine lines_cons (Ne.symm notFeed) fun isReturn => apart ?_
          rw [isReturn, List.getLast?_singleton]
      | cons next tail =>
          have nextNotFeed : (next :: tail ++ text).head? ≠ some '\n' := by
            intro isFeed
            rcases Option.some.inj isFeed with rfl
            exact tailOneLine List.mem_cons_self
          rw [List.getLast?_cons_cons] at apart
          rw [List.cons_append,
            lines_cons (Ne.symm notFeed) fun _ => nextNotFeed,
            ih tailOneLine apart]
          rfl

theorem lines_of_oneLine {line : List Char} (oneLine : '\n' ∉ line)
    (nonempty : line ≠ []) : lines line = [line] := by
  have alone : lines (line ++ []) = line.foldr extendFirst (lines []) :=
    lines_append_of_oneLine oneLine fun _ => by simp
  rwa [List.append_nil, lines_nil, foldr_extendFirst_nil nonempty] at alone

/-- A line and the line feed behind it are read as that line. -/
theorem lines_append_lineFeed {line rest : List Char}
    (oneLine : '\n' ∉ line) (noReturn : line.getLast? ≠ some '\r') :
    lines (line ++ '\n' :: rest) = line :: lines rest := by
  rw [lines_append_of_oneLine oneLine fun isReturn => absurd isReturn noReturn,
    lines_lineFeed, foldr_extendFirst_cons, List.append_nil]

/-- A carriage return in front of the line feed is not part of the line. -/
theorem lines_append_return {line : List Char} (oneLine : '\n' ∉ line)
    (rest : List Char) :
    lines (line ++ '\r' :: '\n' :: rest) = line :: lines rest := by
  rw [lines_append_of_oneLine oneLine fun _ => by simp, lines,
    foldr_extendFirst_cons, List.append_nil]

/-- Lines that are written each with a line feed are read back. -/
theorem lines_flatMap_lineFeed {written : List (List Char)}
    (oneLine : ∀ line ∈ written, '\n' ∉ line)
    (noReturn : ∀ line ∈ written, line.getLast? ≠ some '\r') :
    lines (written.flatMap (· ++ ['\n'])) = written := by
  induction written with
  | nil => rfl
  | cons line rest ih =>
      simp only [List.forall_mem_cons] at oneLine noReturn
      rw [List.flatMap_cons, List.append_assoc, List.singleton_append,
        lines_append_lineFeed oneLine.1 noReturn.1,
        ih oneLine.2 noReturn.2]

/-! ## A text in two parts -/

/-- No line is left without its line feed. -/
def IsClosed (text : List Char) : Prop :=
  text = [] ∨ text.getLast? = some '\n'

instance (text : List Char) : Decidable (IsClosed text) :=
  inferInstanceAs (Decidable (_ ∨ _))

theorem isClosed_nil : IsClosed [] := Or.inl rfl

theorem isClosed_cons_cons {letter next : Char} {rest : List Char} :
    IsClosed (letter :: next :: rest) ↔ IsClosed (next :: rest) := by
  simp [IsClosed, List.getLast?_cons_cons]

theorem isClosed_cons_lineFeed {rest : List Char} :
    IsClosed ('\n' :: rest) ↔ IsClosed rest := by
  cases rest with
  | nil => decide
  | cons next rest => exact isClosed_cons_cons

theorem lines_ne_nil {text : List Char} (nonempty : text ≠ []) :
    lines text ≠ [] := by
  fun_cases lines text with
  | case1 => exact absurd rfl nonempty
  | case2 rest => exact List.cons_ne_nil _ _
  | case3 rest => exact List.cons_ne_nil _ _
  | case4 letter rest notFeed notReturn =>
      exact extendFirst_ne_nil letter _

/-- The lines of a text are read one after the other. -/
theorem lines_append {front : List Char} (closed : IsClosed front)
    (back : List Char) : lines (front ++ back) = lines front ++ lines back := by
  fun_induction lines front with
  | case1 => rfl
  | case2 rest ih =>
      rw [List.cons_append, lines_lineFeed,
        ih (isClosed_cons_lineFeed.mp closed), List.cons_append]
  | case3 rest ih =>
      rw [isClosed_cons_cons, isClosed_cons_lineFeed] at closed
      simp only [List.cons_append, lines, ih closed]
  | case4 letter rest notFeed notReturn ih =>
      cases rest with
      | nil =>
          have isFeed : letter = '\n' := by simpa [IsClosed] using closed
          exact absurd isFeed notFeed
      | cons next rest =>
          have later := ih (isClosed_cons_cons.mp closed)
          have notBoth : letter = '\r' →
              (next :: rest ++ back).head? ≠ some '\n' := by
            intro isReturn isFeed
            rcases Option.some.inj isFeed with rfl
            exact notReturn rest isReturn rfl
          rw [List.cons_append, lines_cons notFeed notBoth, later,
            extendFirst_append (lines_ne_nil (List.cons_ne_nil _ _))]

/-- Every text has at most one open line, at its end. -/
theorem exists_closed_append (text : List Char) :
    ∃ front tail, text = front ++ tail ∧ IsClosed front ∧ '\n' ∉ tail := by
  induction text with
  | nil => exact ⟨[], [], rfl, isClosed_nil, List.not_mem_nil⟩
  | cons letter rest ih =>
      rcases ih with ⟨front, tail, rfl, closed, oneLine⟩
      cases front with
      | cons next front =>
          exact ⟨letter :: next :: front, tail, rfl,
            isClosed_cons_cons.mpr closed, oneLine⟩
      | nil =>
          by_cases isFeed : letter = '\n'
          · exact ⟨[letter], tail, rfl, by simp [IsClosed, isFeed], oneLine⟩
          · exact ⟨[], letter :: tail, rfl, isClosed_nil, by
              simp [Ne.symm isFeed, oneLine]⟩

end MediaHash.Text
