import MediaHash.Text.Letters

/-!
# Ways of presenting results
-/

namespace MediaHash

/-- How results are written. -/
inductive OutputFormat where
  /-- One line for each verdict. -/
  | plain
  /-- A table of verdicts. -/
  | tty
  /-- One JSON document. -/
  | json
deriving DecidableEq, Repr

/-- Whether results are colored. -/
inductive ColorChoice where
  | always
  /-- Only where a person at a terminal reads them. -/
  | auto
  | never
deriving DecidableEq, Repr

/-- The name of a format. -/
def OutputFormat.name : OutputFormat → String
  | .plain => "plain"
  | .tty => "tty"
  | .json => "json"

/-- The format with a name. -/
def OutputFormat.ofName? (name : String) : Option OutputFormat :=
  [plain, tty, json].find? fun format => format.name == name

/-- The name of a choice. -/
def ColorChoice.name : ColorChoice → String
  | .always => "always"
  | .auto => "auto"
  | .never => "never"

/-- The choice with a name. -/
def ColorChoice.ofName? (name : String) : Option ColorChoice :=
  [always, auto, never].find? fun choice => choice.name == name

/-- The choice with a name, letter case aside. -/
def ColorChoice.ofAnyCase? (name : String) : Option ColorChoice :=
  [always, auto, never].find? fun choice => Text.sameLetters choice.name name

@[simp]
theorem OutputFormat.ofName?_name (format : OutputFormat) :
    ofName? format.name = some format := by
  cases format <;> decide

@[simp]
theorem ColorChoice.ofName?_name (choice : ColorChoice) :
    ofName? choice.name = some choice := by
  cases choice <;> decide

end MediaHash
