import MediaHash.Json.Lexer

/-!
# Reading JSON

The lexemes of a document are taken one by one.  A stack holds the arrays
and objects that have begun and not ended, innermost first.  No more than
127 of them may lie inside each other.
-/

namespace MediaHash.Json

/-- An array or object of which a part is being read; its parts last first. -/
inductive Frame where
  | items (earlier : List Json)
  /-- An object in which the value of a key is being read. -/
  | members (earlier : List (String × Json)) (key : String)

/-- What may come next. -/
inductive Expecting where
  | value
  /-- The first item of an array or its end. -/
  | itemOrEnd
  /-- A key of an object with the given members, or its end if allowed. -/
  | key (earlier : List (String × Json)) (endAllowed : Bool)
  /-- The colon after a key. -/
  | colon (earlier : List (String × Json)) (key : String)
  /-- What follows a value that is complete. -/
  | after (value : Json)

/-- How many arrays and objects may lie inside each other. -/
def depthLimit : Nat := 127

/-- Begin a value with the given lexeme. -/
def beginValue (stack : List Frame) (lexeme : Lexeme) :
    Except Fault (List Frame × Expecting) :=
  match lexeme with
  | .scalar value => .ok (stack, .after value)
  | .string value => .ok (stack, .after (.string value))
  | .symbol letter =>
      if letter = '[' ∨ letter = '{' then
        if depthLimit ≤ stack.length then .error .tooDeep
        else if letter = '[' then .ok (.items [] :: stack, .itemOrEnd)
        else .ok (stack, .key [] true)
      else .error .misplaced

/-- Take one lexeme. -/
def take (stack : List Frame) (expecting : Expecting) (lexeme : Lexeme) :
    Except Fault (List Frame × Expecting) :=
  match expecting with
  | .value => beginValue stack lexeme
  | .itemOrEnd =>
      match lexeme, stack with
      | .symbol ']', .items earlier :: outer =>
          .ok (outer, .after (.array earlier.reverse))
      | _, _ => beginValue stack lexeme
  | .key earlier endAllowed =>
      match lexeme with
      | .string key => .ok (stack, .colon earlier key)
      | .symbol letter =>
          if letter = '}' ∧ endAllowed = true then
            .ok (stack, .after (.object earlier.reverse))
          else .error .misplaced
      | .scalar _ => .error .misplaced
  | .colon earlier key =>
      match lexeme with
      | .symbol ':' => .ok (.members earlier key :: stack, .value)
      | _ => .error .misplaced
  | .after value =>
      match stack, lexeme with
      | .items earlier :: outer, .symbol letter =>
          if letter = ',' then .ok (.items (value :: earlier) :: outer, .value)
          else if letter = ']' then
            .ok (outer, .after (.array (value :: earlier).reverse))
          else .error .misplaced
      | .members earlier key :: outer, .symbol letter =>
          if letter = ',' then
            .ok (outer, .key ((key, value) :: earlier) false)
          else if letter = '}' then
            .ok (outer, .after (.object ((key, value) :: earlier).reverse))
          else .error .misplaced
      | _, _ => .error .misplaced

/-- Read the value that lexemes spell from a point on. -/
def parseFrom (stack : List Frame) (expecting : Expecting) :
    List Lexeme → Except Fault Json
  | [] =>
      match stack, expecting with
      | [], .after value => .ok value
      | _, _ => .error .unexpectedEnd
  | lexeme :: rest => do
      let (stack, expecting) ← take stack expecting lexeme
      parseFrom stack expecting rest

/-- The value that a document spells. -/
def parse (document : String) : Except Fault Json := do
  let lexemes ← lexFrom .between document.toList
  parseFrom [] .value lexemes

end MediaHash.Json
