import Mathlib.Data.List.Forall2
import MediaHash.Proofs.Check.Captured
import MediaHash.Proofs.Text.LineEnds

/-!
# Searches line by line

Every line is a piece of its text.  A needle is therefore found in the text
if it is found in a line, and the converse holds of a needle that no end of a
line can cut: one that is not empty and has neither a carriage return nor a
line feed.  A needle with a line feed is in no line at all.

A search in chosen lines gives one verdict for each index that is given, in
their order.
-/

namespace MediaHash

namespace Text

/-! ## Pieces of lines -/

theorem contains_iff_isInfix {text needle : String} :
    contains text needle = true ↔ needle.toList <:+: text.toList := by
  rw [contains, occursIn_iff]
  constructor
  · rintro ⟨before, after, split⟩
    exact ⟨before, after, split.symm⟩
  · rintro ⟨before, after, split⟩
    exact ⟨before, after, split.symm⟩

/-- The first line stands at the beginning of the text. -/
theorem isPrefix_of_lines_eq_cons {text first : List Char}
    {rest : List (List Char)} (split : lines text = first :: rest) :
    first <+: text := by
  fun_induction lines text generalizing first rest with
  | case1 => cases split
  | case2 tail ih =>
      rw [← (List.cons.inj split).1]
      exact List.nil_prefix
  | case3 tail ih =>
      rw [← (List.cons.inj split).1]
      exact List.nil_prefix
  | case4 letter tail notFeed notReturn ih =>
      cases later : lines tail with
      | nil =>
          rw [later, extendFirst, List.cons.injEq] at split
          rw [← split.1]
          exact List.prefix_append [letter] tail
      | cons line others =>
          rw [later, extendFirst_cons, List.cons.injEq] at split
          rw [← split.1]
          exact List.cons_prefix_cons.mpr ⟨rfl, ih later⟩

theorem isInfix_of_mem_lines {text line : List Char}
    (member : line ∈ lines text) : line <:+: text := by
  fun_induction lines text generalizing line with
  | case1 => cases member
  | case2 tail ih =>
      rcases List.mem_cons.mp member with rfl | later
      · exact List.nil_infix
      · exact List.infix_cons (ih later)
  | case3 tail ih =>
      rcases List.mem_cons.mp member with rfl | later
      · exact List.nil_infix
      · exact List.infix_cons (List.infix_cons (ih later))
  | case4 letter tail notFeed notReturn ih =>
      cases split : lines tail with
      | nil =>
          rw [split, extendFirst, List.mem_singleton] at member
          rw [member]
          exact (List.prefix_append [letter] tail).isInfix
      | cons first others =>
          rw [split, extendFirst_cons] at member
          rcases List.mem_cons.mp member with rfl | later
          · have begins : first <+: tail := isPrefix_of_lines_eq_cons split
            exact (List.cons_prefix_cons.mpr ⟨rfl, begins⟩).isInfix
          · apply List.infix_cons
            apply ih
            rw [split]
            exact List.mem_cons_of_mem first later

/-- A stretch that no end of a line cuts begins the first line. -/
theorem exists_lines_append_of_oneLine {line : List Char}
    (oneLine : '\n' ∉ line) (nonempty : line ≠ [])
    (noReturn : line.getLast? ≠ some '\r') (text : List Char) :
    ∃ more rest, lines (line ++ text) = (line ++ more) :: rest := by
  rw [lines_append_of_oneLine oneLine fun isReturn => absurd isReturn noReturn]
  cases lines text with
  | nil => exact ⟨[], [], by rw [foldr_extendFirst_nil nonempty,
      List.append_nil]⟩
  | cons first rest => exact ⟨first, rest, foldr_extendFirst_cons _ _ _⟩

/-- A needle that no end of a line cuts is in a line if it is in the text. -/
theorem exists_line_of_isInfix {needle text : List Char}
    (nonempty : needle ≠ []) (noReturn : '\r' ∉ needle)
    (noFeed : '\n' ∉ needle) (occurs : needle <:+: text) :
    ∃ line ∈ lines text, needle <:+: line := by
  rcases occurs with ⟨before, after, rfl⟩
  rcases exists_closed_append before with
    ⟨front, tail, rfl, closed, oneLine⟩
  have stretchOneLine : '\n' ∉ tail ++ needle := by
    rw [List.mem_append, not_or]
    exact ⟨oneLine, noFeed⟩
  have stretchNoReturn : (tail ++ needle).getLast? ≠ some '\r' := by
    rw [List.getLast?_append_of_ne_nil _ nonempty]
    intro isReturn
    exact noReturn (List.mem_of_getLast? isReturn)
  rcases exists_lines_append_of_oneLine stretchOneLine
      (List.append_ne_nil_of_right_ne_nil tail nonempty) stretchNoReturn
      after with ⟨more, rest, split⟩
  refine ⟨tail ++ needle ++ more, ?_, List.infix_append tail needle more⟩
  rw [List.append_assoc front, List.append_assoc front,
    lines_append closed, split]
  exact List.mem_append_right _ List.mem_cons_self

end Text

namespace Check

/-! ## Mentions -/

variable {text needle : String}

/-- A verdict on a text in which a name is looked for. -/
structure MentionJudged (text name : String) (verdict : Verdict) :
    Prop where
  isMatch : verdict.isMatch = true ↔ Mentioned text name
  found : Mentioned text name → verdict = found name
  notFound : ¬ Mentioned text name → verdict = notFound name

theorem mentionJudged_mention (text name : String) :
    MentionJudged text name (mention text name) := by
  rw [mention]
  by_cases present : mentions (Text.linesOf text) name = true
  · have mentioned := mentions_linesOf_iff.mp present
    rw [mentionIn_of_mentions present]
    exact ⟨iff_of_true rfl mentioned, fun _ => rfl,
      fun missing => absurd mentioned missing⟩
  · have missing : ¬ Mentioned text name := by
      rwa [← mentions_linesOf_iff]
    rw [mentionIn_of_not_mentions present]
    exact ⟨iff_of_false Bool.false_ne_true missing,
      fun mentioned => absurd mentioned missing, fun _ => rfl⟩

theorem mentioned_iff :
    Mentioned text needle ↔
      ∃ line ∈ Text.linesOf text, needle.toList <:+: line.toList := by
  rw [← mentions_linesOf_iff]
  simp only [mentions, List.any_eq_true, Text.contains_iff_isInfix]

theorem isMatch_mention_iff :
    (mention text needle).isMatch = true ↔
      ∃ line ∈ Text.linesOf text, needle.toList <:+: line.toList := by
  rw [(mentionJudged_mention text needle).isMatch, mentioned_iff]

theorem isMatch_mention_iff_isInfix (nonempty : needle ≠ "")
    (noReturn : '\r' ∉ needle.toList) (noFeed : '\n' ∉ needle.toList) :
    (mention text needle).isMatch = true ↔
      needle.toList <:+: text.toList := by
  rw [isMatch_mention_iff]
  constructor
  · rintro ⟨line, isLine, within⟩
    rcases List.mem_map.mp isLine with ⟨letters, isLetters, rfl⟩
    rw [String.toList_ofList] at within
    exact within.trans (Text.isInfix_of_mem_lines isLetters)
  · intro occurs
    rcases Text.exists_line_of_isInfix (by simpa using nonempty) noReturn
        noFeed occurs with ⟨letters, isLetters, within⟩
    refine ⟨String.ofList letters, List.mem_map_of_mem isLetters, ?_⟩
    rwa [String.toList_ofList]

theorem mention_of_lineFeed (hasFeed : '\n' ∈ needle.toList) :
    (mention text needle).isMatch = false := by
  rw [← Bool.not_eq_true, isMatch_mention_iff]
  rintro ⟨line, isLine, within⟩
  rcases List.mem_map.mp isLine with ⟨letters, isLetters, rfl⟩
  rw [String.toList_ofList] at within
  exact Text.lineFeed_not_mem_of_mem_lines isLetters (within.mem hasFeed)

/-! ## Chosen lines -/

/-- A verdict on the line with an index, in which a substring is expected. -/
structure LineSearched (lines : List String) (substring : String)
    (index : Nat) (verdict : Verdict) : Prop where
  isMatch : verdict.isMatch = true ↔
    ∃ line, lines[index]? = some line ∧ substring.toList <:+: line.toList
  matched : verdict.isMatch = true → verdict = .matched (.line index) none
  lacking : ∀ line, lines[index]? = some line →
    ¬ substring.toList <:+: line.toList →
    verdict = .mismatch (.line index) .missingSubstring none substring line
  beyond : lines.length ≤ index →
    verdict = .mismatch (.line index) .missingSubstring none substring
      ("<only " ++ Text.decimal lines.length ++ " lines>")

theorem lineSearched_lineSubstring (lines : List String)
    (substring : String) (index : Nat) :
    LineSearched lines substring index
      (lineSubstring lines substring index) := by
  rw [lineSubstring]
  split
  next line isLine =>
    have within : ¬ lines.length ≤ index := by
      rw [← List.getElem?_eq_none_iff, isLine]
      exact Option.some_ne_none line
    have only (other : String) (isOther : lines[index]? = some other) :
        other = line := Option.some.inj (isOther.symm.trans isLine)
    split
    next found =>
      rw [Text.contains_iff_isInfix] at found
      refine ⟨iff_of_true rfl ⟨line, isLine, found⟩, fun _ => rfl, ?_,
        fun past => absurd past within⟩
      intro other isOther absent
      rw [only other isOther] at absent
      exact absurd found absent
    next absent =>
      rw [Text.contains_iff_isInfix] at absent
      refine ⟨iff_of_false Bool.false_ne_true ?_,
        (absurd · Bool.false_ne_true), ?_, fun past => absurd past within⟩
      · rintro ⟨other, isOther, found⟩
        rw [only other isOther] at found
        exact absent found
      · intro other isOther _
        rw [only other isOther]
  next none =>
    refine ⟨iff_of_false Bool.false_ne_true ?_,
      (absurd · Bool.false_ne_true), ?_, fun _ => rfl⟩
    · rintro ⟨line, isLine, -⟩
      exact absurd (none.symm.trans isLine) (Option.some_ne_none line).symm
    · intro line isLine
      exact absurd (none.symm.trans isLine) (Option.some_ne_none line).symm

/-- The places that are searched, in order: each index with its substring. -/
def places (expected : List LineSubstring) : List (Nat × String) :=
  expected.flatMap fun entry => entry.lines.map (·, entry.substring)

/-- The verdicts are those of a search in all places, one for each. -/
def PlacesSearched (text : String) (expected : List LineSubstring)
    (verdicts : List Verdict) : Prop :=
  List.Forall₂
    (fun place verdict =>
      LineSearched (Text.linesOf text) place.2 place.1 verdict)
    (places expected) verdicts

theorem lineSubstrings_eq_map (text : String)
    (expected : List LineSubstring) :
    lineSubstrings text expected =
      (places expected).map fun place =>
        lineSubstring (Text.linesOf text) place.2 place.1 := by
  simp [lineSubstrings, places, List.map_flatMap, Function.comp_def]

theorem placesSearched_lineSubstrings (text : String)
    (expected : List LineSubstring) :
    PlacesSearched text expected (lineSubstrings text expected) := by
  rw [PlacesSearched, lineSubstrings_eq_map, List.forall₂_map_right_iff,
    List.forall₂_same]
  intro place _
  exact lineSearched_lineSubstring _ _ _

theorem isMatch_mention_iff_exists_line :
    (mention text needle).isMatch = true ↔
      ∃ index verdict, lineSubstrings text [⟨[index], needle⟩] = [verdict] ∧
        verdict.isMatch = true := by
  have single (index : Nat) : lineSubstrings text [⟨[index], needle⟩] =
      [lineSubstring (Text.linesOf text) needle index] := rfl
  rw [isMatch_mention_iff]
  constructor
  · rintro ⟨line, isLine, within⟩
    rcases List.mem_iff_getElem?.mp isLine with ⟨index, placed⟩
    refine ⟨index, _, single index, ?_⟩
    exact (lineSearched_lineSubstring _ _ _).isMatch.mpr
      ⟨line, placed, within⟩
  · rintro ⟨index, verdict, isVerdict, isMatch⟩
    rw [single, List.singleton_inj] at isVerdict
    rw [← isVerdict, (lineSearched_lineSubstring _ _ _).isMatch] at isMatch
    rcases isMatch with ⟨line, placed, within⟩
    exact ⟨line, List.mem_of_getElem? placed, within⟩

/--
A needle is mentioned exactly if the search in some single line finds it.  If
it is not empty and has neither a carriage return nor a line feed, it is
mentioned exactly if it is a piece of the text, and with a line feed it never
is.  A search in chosen lines gives one verdict for each index, in order.
-/
theorem search_by_lines :
    (∀ text needle : String,
      ((mention text needle).isMatch = true ↔
        ∃ index verdict, lineSubstrings text [⟨[index], needle⟩] = [verdict] ∧
          verdict.isMatch = true) ∧
      (needle ≠ "" → '\r' ∉ needle.toList → '\n' ∉ needle.toList →
        ((mention text needle).isMatch = true ↔
          needle.toList <:+: text.toList)) ∧
      ('\n' ∈ needle.toList → (mention text needle).isMatch = false)) ∧
    ∀ text expected,
      PlacesSearched text expected (lineSubstrings text expected) := by
  refine ⟨fun text needle => ⟨isMatch_mention_iff_exists_line, ?_, ?_⟩,
    placesSearched_lineSubstrings⟩
  · exact isMatch_mention_iff_isInfix
  · exact mention_of_lineFeed

/-- A needle is found behind a carriage return, and none across a line feed. -/
theorem search_of_returned_lines :
    ("file" ≠ "" ∧ '\r' ∉ "file".toList ∧ '\n' ∉ "file".toList ∧
      ((mention "no\r\nfile" "file").isMatch = true ↔
        "file".toList <:+: "no\r\nfile".toList) ∧
      (mention "no\r\nfile" "file").isMatch = true) ∧
    '\n' ∈ "o\nf".toList ∧ (mention "no\nfile" "o\nf").isMatch = false := by
  rcases search_by_lines.1 "no\r\nfile" "file" with ⟨-, asPiece, -⟩
  rcases search_by_lines.1 "no\nfile" "o\nf" with ⟨-, -, acrossFeed⟩
  refine ⟨⟨by decide, by decide, by decide, ?_, by decide⟩, by decide, ?_⟩
  · exact asPiece (by decide) (by decide) (by decide)
  · exact acrossFeed (by decide)

/-- No line keeps the return of its end, and an empty text has no line. -/
example :
    (mention "a\r\n" "a\r").isMatch = false ∧
      (mention "" "").isMatch = false := by
  decide

end Check

end MediaHash
