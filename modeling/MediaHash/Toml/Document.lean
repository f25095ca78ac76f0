import MediaHash.Toml.Reader

/-!
# TOML documents

Statements build up a tree of tables.  A table may be defined once only: by
a header, by dotted keys, or inline.  A table that a longer header merely
passes through may still be given a header of its own later.
-/

namespace MediaHash.Toml

/-- How a table came about. -/
inductive Form where
  /-- A header, or the document itself. -/
  | headed
  /-- A longer header passed through it. -/
  | implied
  /-- Dotted keys passed through it. -/
  | dotted
  /-- It was written inline and is complete. -/
  | inline
deriving DecidableEq, Repr

/-- A value of a document. -/
inductive Node where
  | string (value : String)
  | integer (value : Int)
  | boolean (value : Bool)
  | float
  /-- A number that is too great to be held. -/
  | excessive
  | date
  | array (items : List Node)
  /-- The tables of headers in double brackets, the last of them first. -/
  | tables (items : List (List (String × Node)))
  | table (form : Form) (entries : List (String × Node))
deriving Repr, Inhabited

/-- The entries of a table in the order in which they came. -/
abbrev Entries := List (String × Node)

/-- Put a value in the place of the one under a key. -/
def replace (entries : Entries) (key : String) (value : Node) : Entries :=
  entries.map fun entry => if entry.1 == key then (key, value) else entry

/-- A step of a header or of a dotted key. -/
inductive Passage where
  | byHeader
  | byDots
deriving DecidableEq, Repr

/-- The form of a table that is made by passing through it. -/
def Passage.form : Passage → Form
  | .byHeader => .implied
  | .byDots => .dotted

/-- Whether a table of some form may be passed through. -/
def Passage.allows : Passage → Form → Bool
  | _, .inline => false
  | .byHeader, _ => true
  | .byDots, form => form == .implied || form == .dotted

/--
Change the table at a path, making the tables on the way that are not there.
In an array of tables the last one is meant.
-/
def changeAt (passage : Passage)
    (change : Form → Entries → Option Entries) :
    List String → Form → Entries → Option Entries
  | [], form, entries => change form entries
  | key :: rest, _, entries =>
      match entries.lookup key with
      | none => do
          let inner ← changeAt passage change rest passage.form []
          some (entries ++ [(key, .table passage.form inner)])
      | some (.table form inner) =>
          if passage.allows form then do
            let inner ← changeAt passage change rest form inner
            some (replace entries key (.table form inner))
          else none
      | some (.tables (last :: earlier)) => do
          let inner ← changeAt passage change rest .headed last
          some (replace entries key (.tables (inner :: earlier)))
      | some _ => none

/-- Give a key that is not there yet a value. -/
def addNew (key : String) (value : Node) (entries : Entries) :
    Option Entries :=
  if (entries.lookup key).isSome then none
  else some (entries ++ [(key, value)])

/-- The path without its last key, and the last key. -/
def splitPath (path : List String) : Option (List String × String) :=
  path.getLast?.map fun last => (path.dropLast, last)

/-- Give a dotted key a value within a table. -/
def assign (path : List String) (value : Node) (form : Form)
    (entries : Entries) : Option Entries := do
  let (outer, key) ← splitPath path
  changeAt .byDots
    (fun form entries =>
      if outer.isEmpty || form == .dotted then addNew key value entries
      else none)
    outer form entries

mutual

/-- The value that a written value stands for. -/
def Node.ofWritten? : Written → Option Node
  | .string value => some (.string value)
  | .integer value => some (.integer value)
  | .boolean value => some (.boolean value)
  | .float => some .float
  | .excessive => some .excessive
  | .date => some .date
  | .array items => .array <$> nodesOf? items
  | .table entries => .table .inline <$> inlineEntries? [] entries

/-- The values that written values stand for. -/
def nodesOf? : List Written → Option (List Node)
  | [] => some []
  | item :: rest => do
      let node ← Node.ofWritten? item
      let nodes ← nodesOf? rest
      some (node :: nodes)

/-- The entries of an inline table, added to earlier ones. -/
def inlineEntries? (earlier : Entries) :
    List (List String × Written) → Option Entries
  | [] => some earlier
  | (path, value) :: rest => do
      let node ← Node.ofWritten? value
      let entries ← assign path node .headed earlier
      inlineEntries? entries rest

end

/-- Open the table of a header within its outer table. -/
def openTable (key : String) (entries : Entries) : Option Entries :=
  match entries.lookup key with
  | none => some (entries ++ [(key, .table .headed [])])
  | some (.table .implied inner) =>
      some (replace entries key (.table .headed inner))
  | some _ => none

/-- Open a further table of a header in double brackets. -/
def openArrayTable (key : String) (entries : Entries) : Option Entries :=
  match entries.lookup key with
  | none => some (entries ++ [(key, .tables [[]])])
  | some (.tables items) =>
      some (replace entries key (.tables ([] :: items)))
  | some _ => none

/-- Take statements into the document; the header that is open comes first. -/
def buildFrom (current : List String) (document : Entries) :
    List Statement → Option Entries
  | [] => some document
  | .header path :: rest => do
      let (outer, key) ← splitPath path
      let document ←
        changeAt .byHeader (fun _ => openTable key) outer .headed document
      buildFrom path document rest
  | .arrayHeader path :: rest => do
      let (outer, key) ← splitPath path
      let document ←
        changeAt .byHeader (fun _ => openArrayTable key) outer .headed document
      buildFrom path document rest
  | .assign path value :: rest => do
      let node ← Node.ofWritten? value
      let document ←
        changeAt .byHeader (assign path node) current .headed document
      buildFrom current document rest

mutual

/-- Every number within a value can be held. -/
def Node.isSound : Node → Bool
  | .excessive => false
  | .array items => areSound items
  | .tables items => areSoundTables items
  | .table _ entries => areSoundEntries entries
  | _ => true

/-- Every number within the values can be held. -/
def areSound : List Node → Bool
  | [] => true
  | node :: rest => node.isSound && areSound rest

/-- Every number within the entries of a table can be held. -/
def areSoundEntries : List (String × Node) → Bool
  | [] => true
  | (_, node) :: rest => node.isSound && areSoundEntries rest

/-- Every number within the tables can be held. -/
def areSoundTables : List (List (String × Node)) → Bool
  | [] => true
  | entries :: rest => areSoundEntries entries && areSoundTables rest

end

/-- The top table of a document. -/
def read (document : String) : Option Node := do
  let statements ← statements? document.toList
  let entries ← buildFrom [] [] statements
  some (.table .headed entries)

end MediaHash.Toml
