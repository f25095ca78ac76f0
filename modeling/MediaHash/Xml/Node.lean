import MediaHash.Xml.Lexeme

/-!
# The tree of a document

A document is a tree of named elements and text.  Building it from lexemes
checks that tags nest, that there is exactly one root, and that every
qualifier stands for an address declared around it.  Of a name only the part
after the colon is kept, and attributes are checked and dropped.

Line ends in text and data are written as line feeds.
-/

namespace MediaHash.Xml

/-- An element with what it holds, or text. -/
inductive Node where
  | element (name : String) (content : List Node)
  | text (text : String)
deriving Repr

/-! ## Line ends -/

/--
Take a literal character into text whose last character comes first.  A
carriage return becomes a line feed once the character after it is known.
-/
def takeLiteral (taken : List Char) (letter : Char) (isLast : Bool) :
    List Char :=
  let letter' := if isLast && letter == '\r' then '\n' else letter
  match taken with
  | '\r' :: earlier =>
      if letter = '\n' then '\n' :: earlier else letter' :: '\n' :: earlier
  | _ => letter' :: taken

/--
The characters of text.  What a reference stands for is kept as it is, and
so is the literal character directly after a reference.
-/
def resolveFrom (taken : List Char) (afterReference : Bool) :
    List Piece → List Char
  | [] => taken.reverse
  | .reference letter :: rest => resolveFrom (letter :: taken) true rest
  | .literal letter :: rest =>
      if afterReference then resolveFrom (letter :: taken) false rest
      else resolveFrom (takeLiteral taken letter rest.isEmpty) false rest

/-- The characters of text with its line ends normalized. -/
def resolveText (pieces : List Piece) : List Char :=
  resolveFrom [] false pieces

/-- The characters of data with its line ends normalized. -/
def resolveData (letters : List Char) : List Char :=
  resolveFrom [] false (letters.map .literal)

/-- The characters of a value; line ends and tabs become spaces. -/
def resolveValue : List Piece → List Char
  | [] => []
  | .literal '\r' :: .literal '\n' :: rest => ' ' :: resolveValue rest
  | .literal letter :: rest =>
      (if letter = '\r' ∨ letter = '\n' ∨ letter = '\t' then ' ' else letter)
        :: resolveValue rest
  | .reference letter :: rest => letter :: resolveValue rest

/-! ## Qualifiers and their addresses -/

/-- Addresses of qualifiers, the nearest declaration first. -/
abbrev Scope := List (Option String × String)

/-- The address that the qualifier `xml` always has. -/
def xmlAddress : String := "http://www.w3.org/XML/1998/namespace"

/-- The address of declarations themselves. -/
def declarationAddress : String := "http://www.w3.org/2000/xmlns/"

/-- The address of a qualifier that is not empty. -/
def Scope.address (scope : Scope) (qualifier : String) :
    Except Fault String :=
  match scope.lookup (some qualifier) with
  | some address => .ok address
  | none => .error (.unboundName qualifier)

/-- Read the attributes that declare addresses, in order. -/
def declarations (declared : Scope) :
    List Attribute → Except Fault Scope
  | [] => .ok declared
  | given :: rest =>
      let base := given.name.base
      let address := String.ofList (resolveValue given.value)
      if given.name.qualifier = "xmlns" then
        if address = declarationAddress ∨
            (base = "xml" ∧ address ≠ xmlAddress) ∨
            (base ≠ "xml" ∧ address = xmlAddress) then
          .error .reservedName
        else if (declared.lookup (some base)).isSome then
          .error (.duplicateAttribute base)
        else if address = xmlAddress then declarations declared rest
        else declarations (declared ++ [(some base, address)]) rest
      else if base = "xmlns" then
        if address = xmlAddress ∨ address = declarationAddress then
          .error .reservedName
        else declarations (declared ++ [(none, address)]) rest
      else declarations declared rest

/-- The attribute declares an address and is no attribute otherwise. -/
def Attribute.isDeclaration (given : Attribute) : Bool :=
  given.name.qualifier == "xmlns" || given.name.base == "xmlns"

/-- The address and the base of an attribute's name. -/
def Scope.expand (scope : Scope) (name : Name) :
    Except Fault (Option String × String) :=
  if name.qualifier = "" then .ok (none, name.base)
  else if name.qualifier = "xml" then .ok (some xmlAddress, name.base)
  else do
    let address ← scope.address name.qualifier
    .ok (some address, name.base)

/-- No two attributes have the same address and base. -/
def checkAttributes (scope : Scope)
    (seen : List (Option String × String)) :
    List Attribute → Except Fault Unit
  | [] => .ok ()
  | given :: rest => do
      let expanded ← scope.expand given.name
      if expanded ∈ seen then .error (.duplicateAttribute expanded.2)
      else checkAttributes scope (expanded :: seen) rest

/-- The scope inside an element, once its names have been checked. -/
def enterElement (scope : Scope) (name : Name)
    (attributes : List Attribute) : Except Fault Scope := do
  if name.qualifier = "xmlns" then .error .reservedName
  else
    let declared ← declarations [] attributes
    let inner := declared ++ scope
    checkAttributes inner [] (attributes.filter (!·.isDeclaration))
    if name.qualifier = "" then .ok inner
    else
      let _ ← Scope.address inner name.qualifier
      .ok inner

/-! ## Nesting -/

/-- An element whose end has not come yet. -/
structure OpenElement where
  name : Name
  /-- The scope inside the element. -/
  scope : Scope
  /-- What the element holds so far, the last first. -/
  content : List Node

/-- Put a node into the innermost open element, or let it be the root. -/
def place (node : Node) : List OpenElement → Option Node →
    List OpenElement × Option Node
  | [], _ => ([], some node)
  | innermost :: outer, root =>
      ({ innermost with content := node :: innermost.content } :: outer, root)

/-- Build the tree: the open elements, innermost first, and the root if any. -/
def build (stack : List OpenElement) (root : Option Node) :
    List Lexeme → Except Fault Node
  | [] =>
      match stack, root with
      | [], some node => .ok node
      | [], none => .error .missingRoot
      | _ :: _, _ => .error .unclosedElement
  | .aside :: rest => build stack root rest
  | .text pieces :: rest =>
      if stack.isEmpty then
        if pieces.all fun piece => match piece with
            | .literal letter => isSpace letter
            | .reference _ => false then
          build stack root rest
        else .error .textOutsideRoot
      else
        let (stack, root) :=
          place (.text (String.ofList (resolveText pieces))) stack root
        build stack root rest
  | .data letters :: rest =>
      if stack.isEmpty then .error .textOutsideRoot
      else
        let (stack, root) :=
          place (.text (String.ofList (resolveData letters))) stack root
        build stack root rest
  | .opening name attributes closed :: rest =>
      if stack.isEmpty && root.isSome then .error .unexpectedMarkup
      else do
        let outer := (stack.head?.map OpenElement.scope).getD []
        let scope ← enterElement outer name attributes
        if closed then
          let (stack, root) := place (.element name.base []) stack root
          build stack root rest
        else
          build (⟨name, scope, []⟩ :: stack) root rest
  | .closing name :: rest =>
      match stack with
      | innermost :: outer =>
          if innermost.name = name then
            let (stack, root) :=
              place (.element name.base innermost.content.reverse) outer root
            build stack root rest
          else .error (.mismatchedEnd name.base)
      | [] => .error (.mismatchedEnd name.base)

/-- The root element that a text spells. -/
def read (document : String) : Except Fault Node := do
  let lexemes ← lexemesOf document.toList
  build [] none lexemes

/-! ## Walking the tree -/

namespace Node

mutual

/-- The text in an element at any depth, joined in order. -/
def innerText : Node → List Char
  | .text written => written.toList
  | .element _ content => innerTextAll content

/-- The text in a run of nodes, joined in order. -/
def innerTextAll : List Node → List Char
  | [] => []
  | node :: rest => innerText node ++ innerTextAll rest

end

/-- The name and the content of an element. -/
def element? : Node → Option (String × List Node)
  | .element name content => some (name, content)
  | .text _ => none

mutual

/-- The elements of a tree with their content, each before those inside it. -/
def elements : Node → List (String × List Node)
  | .text _ => []
  | .element name content => (name, content) :: elementsAll content

/-- The elements of a run of trees. -/
def elementsAll : List Node → List (String × List Node)
  | [] => []
  | node :: rest => elements node ++ elementsAll rest

end

end Node

end MediaHash.Xml
