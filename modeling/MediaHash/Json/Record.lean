import MediaHash.Json.Value

/-!
# Records written as JSON

A record with named fields is written as an object, or as an array of its
fields in order.  In an object, no field may stand twice, and members that
name no field are passed over unless the record allows none.  In an array,
fields at the end may be left out, but nothing may follow the last one.
What a missing field means is for the record to say.
-/

namespace MediaHash.Json

/-- The values of a name among members, in order. -/
def valuesOf (members : List (String × Json)) (name : String) : List Json :=
  (members.filter fun member => member.1 == name).map Prod.snd

/-- The value of a field, if it is there; none if it stands twice. -/
def field? (members : List (String × Json)) (name : String) :
    Option (Option Json) :=
  match valuesOf members name with
  | [] => some none
  | [value] => some (some value)
  | _ :: _ :: _ => none

/-- The values of the fields of a record, each of them there or missing. -/
def fields? (names : List String) : Json → Option (List (Option Json))
  | .object members => names.mapM (field? members)
  | .array items =>
      if items.length ≤ names.length then
        some (items.map some ++
          List.replicate (names.length - items.length) none)
      else none
  | _ => none

/-- The same for a record that allows no members but its own fields. -/
def exactFields? (names : List String) (value : Json) :
    Option (List (Option Json)) :=
  match value with
  | .object members =>
      if members.all fun member => names.contains member.1 then
        fields? names value
      else none
  | _ => fields? names value

/-- A text. -/
def string? : Json → Option String
  | .string value => some value
  | _ => none

/-- A whole number between two bounds, both included. -/
def int? (least greatest : Int) : Json → Option Int
  | .int value =>
      if least ≤ value ∧ value ≤ greatest then some value else none
  | _ => none

/-- A natural number below 2^32. -/
def nat32? (value : Json) : Option Nat :=
  (int? 0 (UInt32.size - 1) value).map Int.toNat

/-- A natural number below 2^64. -/
def nat64? (value : Json) : Option Nat :=
  (int? 0 (UInt64.size - 1) value).map Int.toNat

/-- A whole number that fits 32 bits with a sign. -/
def int32? (value : Json) : Option Int :=
  int? (-2147483648) 2147483647 value

/-- A list whose items can all be read. -/
def list? {α : Type} (item? : Json → Option α) : Json → Option (List α)
  | .array items => items.mapM item?
  | _ => none

/-- A text, or nothing. -/
def optionalString? : Json → Option (Option String)
  | .null => some none
  | .string value => some (some value)
  | _ => none

/-- A field that must be there. -/
def required? {α : Type} (read? : Json → Option α) :
    Option Json → Option α
  | some value => read? value
  | none => none

/-- A field that has a value of its own when it is missing. -/
def defaulted? {α : Type} (missing : α) (read? : Json → Option α) :
    Option Json → Option α
  | some value => read? value
  | none => some missing

/--
One of several names: its text, or an object whose only member has the name
as key and nothing as value.
-/
def name? {α : Type} (ofName? : String → Option α) : Json → Option α
  | .string name => ofName? name
  | .object [(name, .null)] => ofName? name
  | .object [(name, .object [])] => ofName? name
  | _ => none

end MediaHash.Json
