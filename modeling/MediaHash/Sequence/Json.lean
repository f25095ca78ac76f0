import MediaHash.Json.Record
import MediaHash.Sequence.Basic

/-!
# Sequences as JSON

A sequence is a record of its tokens and its runs.  Nothing is checked when
it is read but that the numbers fit their words, so the runs need not be the
runs of the tokens.  A run allows no members but its two ends.
-/

namespace MediaHash

open Json

/-- A token as a record of its bounds and its width. -/
def Token.toJson (token : Token) : Json :=
  .object [("low", .nat token.low), ("high", .nat token.high),
    ("width", .nat token.width)]

/-- The token that a record stands for. -/
def Token.ofJson? (value : Json) : Option Token := do
  let [low, high, width] ← fields? ["low", "high", "width"] value | none
  some ⟨← required? nat32? low, ← required? nat32? high,
    ← required? nat64? width⟩

/-- A run as a record of its two ends. -/
def Run.toJson (run : Run) : Json :=
  .object [("start", .nat run.first), ("end", .nat run.last)]

/-- The run that a record stands for. -/
def Run.ofJson? (value : Json) : Option Run := do
  let [first, last] ← exactFields? ["start", "end"] value | none
  some ⟨← required? nat32? first, ← required? nat32? last⟩

namespace Sequence

/-- The sequence as a record. -/
def toJson (sequence : Sequence) : Json :=
  .object [("tokens", .array (sequence.tokens.map Token.toJson)),
    ("runs", .array (sequence.runs.map Run.toJson))]

/-- The sequence that a record stands for. -/
def ofJson? (value : Json) : Option Sequence := do
  let [tokens, runs] ← fields? ["tokens", "runs"] value | none
  some ⟨← required? (list? Token.ofJson?) tokens,
    ← required? (list? Run.ofJson?) runs⟩

end Sequence

end MediaHash
