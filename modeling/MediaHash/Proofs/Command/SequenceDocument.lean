import MediaHash.Command.Run
import MediaHash.Proofs.Json.Writing
import MediaHash.Proofs.Sequence.Naming
import MediaHash.Proofs.Sequence.Writing

/-!
# The document of a sequence with its names

What is said of a sequence is printed as a value if no pattern is given.
With a pattern the line is put together from pieces: the summary without its
closing brace, the names one by one, and the brackets that are still open.

The pieces make up the text of one value, which is the summary with one more
member for the names.  Both texts are read back as their values, whatever
characters the pattern holds.  Neither is printed if a token of the sequence
is too wide to be padded.
-/

namespace MediaHash

open Json

namespace Command.Result

/-! ## The pieces -/

theorem quotedNames_eq (names : List String) :
    quotedNames names = compactItems (names.map .string) := by
  have written : quotedNames names = [','].intercalate (names.map quoted) :=
    eq_intercalate rfl (fun _ => rfl) (fun _ _ _ => rfl) names
  rw [written, compactItems_eq, List.map_map]
  congr 1

/-- The names of a sequence as a member. -/
def namesMember (names : List String) : String × Json :=
  ("names", .array (names.map .string))

/-- The pieces make up the text of one value. -/
theorem summaryWithNames_eq (written : String) (sequence : Sequence)
    (names : List String) :
    summaryWithNames written sequence names =
      (Json.object (summaryMembers written sequence ++
        [namesMember names])).compactChars ++ ['\n'] := by
  have nonempty : summaryMembers written sequence ≠ [] :=
    List.cons_ne_nil _ _
  rw [compactChars_object_concat nonempty, summaryWithNames, summary,
    quotedNames_eq]
  simp [namesMember, compactChars, quoted, escape]

section Printing

variable {sequence : Sequence} {written : String}
  (isWritten : sequence.text? = some written)

include isWritten

theorem jsonText?_without_names :
    jsonText? (.sequence sequence none) =
      some ((summary written sequence).pretty ++ "\n") := by
  rw [jsonText?, isWritten]
  rfl

theorem jsonText?_with_names {pattern : String} {names : List String}
    (areNames : sequence.names? pattern = some names) :
    jsonText? (.sequence sequence (some pattern)) =
      some ((Json.object (summaryMembers written sequence ++
        [namesMember names])).compact ++ "\n") := by
  have pieces : jsonText? (.sequence sequence (some pattern)) =
      some (String.ofList (summaryWithNames written sequence names)) := by
    rw [jsonText?, isWritten, areNames]
    rfl
  rw [pieces, summaryWithNames_eq, String.ofList_append]
  rfl

end Printing

/-- Where a sequence cannot be written, there is no document of it. -/
theorem jsonText?_of_unwritten {sequence : Sequence}
    (unwritten : sequence.text? = none) (pattern : Option String) :
    jsonText? (.sequence sequence pattern) = none := by
  cases pattern with
  | none =>
      rw [jsonText?, unwritten]
      rfl
  | some pattern =>
      rw [jsonText?, unwritten]
      rfl

/-! ## What is read back -/

section WellFormed

variable {sequence : Sequence} (wellFormed : sequence.WellFormed)
  (written : String)

include wellFormed

theorem writable_of_mem_summaryMembers {levels : Nat} :
    ∀ member ∈ summaryMembers written sequence,
      Writable (levels + 2) member.2 := by
  have size : sequence.size < UInt64.size := by
    rw [wellFormed.size_eq_sum]
    exact Nat.lt_of_le_of_lt (wellFormed.sum_count_le List.prefix_rfl)
      (by decide)
  have small (run) (member : run ∈ sequence.runs) :
      run.first < UInt64.size ∧ run.last < UInt64.size := by
    have last : run.last < UInt64.size :=
      Nat.lt_of_le_of_lt (wellFormed.last_le run member) (by decide)
    have inOrder := wellFormed.canonical.inOrder run member
    exact ⟨Nat.lt_of_le_of_lt inOrder last, last⟩
  simpa [summaryMembers, size] using small

theorem writable_summary {levels : Nat} :
    Writable (levels + 3) (summary written sequence) :=
  .object (writable_of_mem_summaryMembers wellFormed written)

theorem writable_summary_concat {levels : Nat} (names : List String) :
    Writable (levels + 3)
      (.object (summaryMembers written sequence ++ [namesMember names])) := by
  have summary := @writable_of_mem_summaryMembers _ wellFormed written levels
  refine .object (List.forall_mem_append.mpr ⟨summary, ?_⟩)
  simp [namesMember]

end WellFormed

end Command.Result

namespace Sequence

open Command.Result

/-- What is printed as JSON if a sequence is accepted; none if nothing is. -/
def PrintsJson (text : String) (pattern : Option String)
    (printed : Option String) : Prop :=
  ∀ files config,
    (Command.execute files config (.sequence text pattern)).map
      (Command.Result.text? .json) = .ok printed

theorem printsJson_of_readContiguous {text : String} {sequence : Sequence}
    (success : readContiguous text = .ok sequence)
    (pattern : Option String) :
    PrintsJson text pattern
      (Command.Result.jsonText? (.sequence sequence pattern)) := by
  intro files config
  simp only [Command.execute, success]
  rfl

theorem exists_text?_of_narrow {sequence : Sequence}
    (narrow : ∀ token ∈ sequence.tokens,
      token.width ≤ Text.widestPadding) :
    ∃ written, sequence.text? = some written := by
  rw [← Option.ne_none_iff_exists', Ne, text?_eq_none_iff]
  rintro ⟨token, member, wide⟩
  exact absurd (narrow token member) (Nat.not_le.mpr wide)

theorem WellFormed.exists_names?_of_narrow {sequence : Sequence}
    (wellFormed : sequence.WellFormed)
    (narrow : ∀ token ∈ sequence.tokens,
      token.width ≤ Text.widestPadding) (pattern : String) :
    ∃ names, sequence.names? pattern = some names := by
  rw [← Option.ne_none_iff_exists', Ne, wellFormed.names?_eq_none_iff]
  rintro ⟨padded, member, wide⟩
  exact absurd (width_le_of_mem_walk narrow member) (Nat.not_le.mpr wide)

/--
For a sequence without gaps one line is printed if a pattern is given.  It
is the text of one object with a line feed behind it.  Its members are those
of the object that is printed without a pattern, and then the names of the
sequence, in order.

This is so if all tokens can be padded.  Otherwise nothing is printed, with
or without a pattern.
-/
theorem names_extend_summary {text : String} {sequence : Sequence}
    (success : readContiguous text = .ok sequence) (pattern : String) :
    ((∀ token ∈ sequence.tokens, token.width ≤ Text.widestPadding) →
      ∃ written names plain document members,
        sequence.text? = some written ∧
        sequence.names? pattern = some names ∧
        PrintsJson text none (some plain) ∧
        PrintsJson text (some pattern) (some (document ++ "\n")) ∧
        '\n' ∉ document.toList ∧
        members = [("len", .nat sequence.size),
          ("runs", .array (sequence.runs.map fun run =>
            .array [.nat run.first, .nat run.last])),
          ("spec", .string written), ("valid", .bool true)] ∧
        Json.parse plain = .ok (.object members) ∧
        Json.parse document = .ok (.object (members ++
          [("names", .array (names.map .string))])) ∧
        Json.parse (document ++ "\n") = Json.parse document) ∧
    ((∃ token ∈ sequence.tokens, Text.widestPadding < token.width) →
      PrintsJson text none none ∧ PrintsJson text (some pattern) none) := by
  have wellFormed := wellFormed_of_read (read_of_readContiguous success)
  have printsPlain := printsJson_of_readContiguous success none
  have printsNames := printsJson_of_readContiguous success (some pattern)
  constructor
  · intro narrow
    rcases exists_text?_of_narrow narrow with ⟨written, isWritten⟩
    rcases wellFormed.exists_names?_of_narrow narrow pattern with
      ⟨names, areNames⟩
    rw [jsonText?_without_names isWritten] at printsPlain
    rw [jsonText?_with_names isWritten areNames] at printsNames
    have isSummary := @writable_summary _ wellFormed written 124
    have isDocument := @writable_summary_concat _ wellFormed written 124 names
    refine ⟨written, names, _, _, summaryMembers written sequence, isWritten,
      areNames, printsPlain, printsNames, ?_, rfl,
      parse_pretty_newline isSummary, parse_compact isDocument, ?_⟩
    · rw [compact, String.toList_ofList]
      exact newline_not_mem_compactChars isDocument
    · exact (parse_compact_newline isDocument).trans
        (parse_compact isDocument).symm
  · intro wide
    have unwritten := text?_eq_none_iff.mpr wide
    rw [jsonText?_of_unwritten unwritten] at printsPlain printsNames
    exact ⟨printsPlain, printsNames⟩

/-- A pattern with quotes, a backslash, a control character and braces. -/
theorem document_of_names_to_escape :
    readContiguous "08-10, 9" =
        .ok ⟨[⟨8, 10, 2⟩, ⟨9, 9, 1⟩], [⟨8, 10⟩]⟩ ∧
      ∃ document,
        PrintsJson "08-10, 9" (some "\"\x7b\x7bN\x7d\\\x01\x7d")
          (some (document ++ "\n")) ∧
        Json.parse document = .ok (.object [("len", .nat 3),
          ("runs", .array [.array [.nat 8, .nat 10]]),
          ("spec", .string "08-10, 9"), ("valid", .bool true),
          ("names", .array [.string "\"\x7b08\\\x01\x7d",
            .string "\"\x7b09\\\x01\x7d",
            .string "\"\x7b10\\\x01\x7d"])]) := by
  have merged : Run.merge [⟨8, 10⟩, ⟨9, 9⟩] = [⟨8, 10⟩] := by
    rw [Run.merge, List.mergeSort_of_pairwise (by decide)]
    rfl
  have success : readContiguous "08-10, 9" =
      .ok ⟨[⟨8, 10, 2⟩, ⟨9, 9, 1⟩], [⟨8, 10⟩]⟩ := by
    have tokens : readTokens (Text.pieces ',' "08-10, 9".toList) =
        .ok [⟨8, 10, 2⟩, ⟨9, 9, 1⟩] := by
      rfl
    rw [readContiguous, read_of_readTokens (by decide +kernel) tokens,
      ofTokens, List.map_cons, List.map_singleton]
    simp only [Token.run, merged]
    rfl
  have named : (Sequence.mk [⟨8, 10, 2⟩, ⟨9, 9, 1⟩] [⟨8, 10⟩]).names?
      "\"\x7b\x7bN\x7d\\\x01\x7d" = some ["\"\x7b08\\\x01\x7d",
        "\"\x7b09\\\x01\x7d", "\"\x7b10\\\x01\x7d"] := by
    decide +kernel
  have isText : (Sequence.mk [⟨8, 10, 2⟩, ⟨9, 9, 1⟩] [⟨8, 10⟩]).text? =
      some "08-10, 9" := by
    decide +kernel
  refine ⟨success, ?_⟩
  rcases (names_extend_summary success "\"\x7b\x7bN\x7d\\\x01\x7d").1
      (by decide) with
    ⟨written, names, plain, document, members, isWritten, areNames, -,
      printed, -, rfl, -, isDocument, -⟩
  cases isText.symm.trans isWritten
  cases named.symm.trans areNames
  exact ⟨document, printed, isDocument⟩

/-- The sequence has one number and no gap, and yet nothing is printed. -/
theorem no_document_of_wide_zeros :
    readContiguous (zeros 65536) = .ok (ofTokens [⟨0, 0, 65536⟩]) ∧
      PrintsJson (zeros 65536) (some "\"\x7bN\x7d\\") none := by
  have success : readContiguous (zeros 65536) =
      .ok (ofTokens [⟨0, 0, 65536⟩]) := readContiguous_zeros 65535
  have unwritten : (ofTokens [⟨0, 0, 65536⟩]).text? = none :=
    text?_eq_none_iff.mpr
      ⟨_, List.mem_singleton_self _, Nat.lt_succ_self _⟩
  have prints := printsJson_of_readContiguous success
    (some "\"\x7bN\x7d\\")
  rw [jsonText?_of_unwritten unwritten] at prints
  exact ⟨success, prints⟩

end Sequence

end MediaHash
