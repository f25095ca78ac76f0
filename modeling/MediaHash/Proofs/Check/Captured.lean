import MediaHash.Check.Exit
import MediaHash.Check.Lines

/-!
# Checks of a captured run

Of a run, its exit status is compared with the one that is expected, and
names are looked for one after the other in the lines of its output.  The
search ends at the first name that no line has.  It decides all the same
whether every name is there, although the names behind the missing one are
never looked for.
-/

namespace MediaHash.Check

/-- A verdict on an exit status where a certain one is expected. -/
structure ExitJudged (expected actual : Int) (verdict : Verdict) :
    Prop where
  isMatch : verdict.isMatch = true ↔ actual = expected
  matched : actual = expected → verdict = .matched .exitCode none
  mismatched : actual ≠ expected →
    verdict = .mismatch .exitCode .exitCodeMismatch none
      (ExitCode.describe expected) (ExitCode.describe actual)

theorem exitJudged_exitNumber (expected actual : Int) :
    ExitJudged expected actual (exitNumber expected actual) := by
  rw [exitNumber]
  split
  next equal =>
    exact ⟨by simp [Verdict.isMatch, equal], fun _ => rfl,
      fun different => absurd equal.symm different⟩
  next different =>
    have notEqual : actual ≠ expected := Ne.symm different
    exact ⟨by simp [Verdict.isMatch, notEqual],
      fun equal => absurd equal notEqual, fun _ => rfl⟩

/-! ## One name -/

/-- Some line of the output has the name as one piece. -/
def Mentioned (output name : String) : Prop :=
  ∃ line ∈ Text.linesOf output, ∃ before after,
    line.toList = before ++ name.toList ++ after

theorem mentions_linesOf_iff {output name : String} :
    mentions (Text.linesOf output) name = true ↔ Mentioned output name := by
  simp only [mentions, List.any_eq_true, Text.contains, Text.occursIn_iff]
  rfl

/-- The verdict on a name that some line has. -/
def found (name : String) : Verdict :=
  .matched .presence (some name)

/-- The verdict on a name that no line has. -/
def notFound (name : String) : Verdict :=
  .mismatch .presence .missingSubstring (some name) "mentioned"
    "not mentioned"

@[simp]
theorem isMatch_found (name : String) : (found name).isMatch = true := rfl

@[simp]
theorem isMatch_notFound (name : String) :
    (notFound name).isMatch = false := rfl

theorem mentionIn_of_mentions {lines : List String} {name : String}
    (present : mentions lines name = true) :
    mentionIn lines name = found name :=
  if_pos present

theorem mentionIn_of_not_mentions {lines : List String} {name : String}
    (absent : ¬ mentions lines name = true) :
    mentionIn lines name = notFound name :=
  if_neg absent

theorem all_isMatch_map_found (names : List String) :
    (names.map found).all Verdict.isMatch = true := by
  simp [List.all_map]

/-! ## Names one after the other -/

/--
The verdicts of a search for names: one on each of them if all are found, or
else one on each up to the first that is missing.
-/
inductive Searched (output : String) : List String → List Verdict → Prop
  | complete {names : List String}
      (mentioned : ∀ name ∈ names, Mentioned output name) :
      Searched output names (names.map found)
  | cut {before after : List String} {name : String}
      (mentioned : ∀ other ∈ before, Mentioned output other)
      (missing : ¬ Mentioned output name) :
      Searched output (before ++ name :: after)
        (before.map found ++ [notFound name])

namespace Searched

variable {output name : String} {names rest : List String}
variable {verdicts more : List Verdict}

theorem nil : Searched output [] [] :=
  complete (List.forall_mem_nil _)

theorem cons_found (mentioned : Mentioned output name)
    (searched : Searched output rest verdicts) :
    Searched output (name :: rest) (found name :: verdicts) := by
  cases searched with
  | complete restMentioned =>
      exact complete (List.forall_mem_cons.mpr ⟨mentioned, restMentioned⟩)
  | cut restMentioned missing =>
      exact cut (List.forall_mem_cons.mpr ⟨mentioned, restMentioned⟩) missing

theorem cons_notFound (missing : ¬ Mentioned output name) :
    Searched output (name :: rest) [notFound name] :=
  cut (List.forall_mem_nil _) missing

theorem append_of_mentioned
    (mentioned : ∀ name ∈ names, Mentioned output name)
    (searched : Searched output rest more) :
    Searched output (names ++ rest) (names.map found ++ more) := by
  induction names with
  | nil => exact searched
  | cons first names ih =>
      rcases List.forall_mem_cons.mp mentioned with ⟨here, later⟩
      exact cons_found here (ih later)

/-- A search without a mismatch goes on with the names that follow. -/
theorem append (searched : Searched output names verdicts)
    (allMatch : verdicts.all Verdict.isMatch = true)
    (restSearched : Searched output rest more) :
    Searched output (names ++ rest) (verdicts ++ more) := by
  cases searched with
  | complete mentioned => exact append_of_mentioned mentioned restSearched
  | cut mentioned missing => simp at allMatch

/-- No name that follows a mismatch counts. -/
theorem append_of_mismatch (searched : Searched output names verdicts)
    (mismatch : ¬ verdicts.all Verdict.isMatch = true) :
    Searched output (names ++ rest) verdicts := by
  cases searched with
  | complete mentioned =>
      exact absurd (all_isMatch_map_found names) mismatch
  | cut mentioned missing =>
      rw [List.append_assoc, List.cons_append]
      exact cut mentioned missing

/-- The verdicts are matches exactly if every name could be found. -/
theorem all_isMatch_iff (searched : Searched output names verdicts) :
    verdicts.all Verdict.isMatch = true ↔
      ∀ name ∈ names, Mentioned output name := by
  cases searched with
  | complete mentioned =>
      exact iff_of_true (all_isMatch_map_found names) mentioned
  | cut mentioned missing =>
      apply iff_of_false
      · simp
      · intro allMentioned
        exact missing (allMentioned _ (by simp))

theorem isMatch_of_mem_dropLast (searched : Searched output names verdicts)
    {verdict : Verdict} (early : verdict ∈ verdicts.dropLast) :
    verdict.isMatch = true := by
  cases searched with
  | complete mentioned =>
      have allMatch := List.all_eq_true.mp (all_isMatch_map_found names)
      exact allMatch verdict (List.dropLast_subset _ early)
  | @cut before after name mentioned missing =>
      have allMatch := List.all_eq_true.mp (all_isMatch_map_found before)
      rw [List.dropLast_concat] at early
      exact allMatch verdict early

end Searched

end MediaHash.Check
