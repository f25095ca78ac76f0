/-!
# Faults of a document
-/

namespace MediaHash.Xml

/-- Why a text is not a well-formed document. -/
inductive Fault where
  | unexpectedEnd
  | invalidCharacter
  | invalidName
  | invalidReference
  | invalidComment
  | invalidDeclaration
  | unexpectedMarkup
  | missingSpace
  | missingQuote
  | endOfDataInText
  | reservedName
  | unboundName (qualifier : String)
  | duplicateAttribute (name : String)
  | mismatchedEnd (name : String)
  | textOutsideRoot
  | missingRoot
  | unclosedElement
deriving DecidableEq, Repr

/-- A description of the fault. -/
def Fault.message : Fault → String
  | .unexpectedEnd => "the document ends too early"
  | .invalidCharacter => "a character that no document may hold"
  | .invalidName => "invalid name"
  | .invalidReference => "invalid reference"
  | .invalidComment => "two hyphens within a comment"
  | .invalidDeclaration => "invalid declaration"
  | .unexpectedMarkup => "markup that may not stand here"
  | .missingSpace => "no space before an attribute"
  | .missingQuote => "no quote around a value"
  | .endOfDataInText => "the end of a data section within text"
  | .reservedName => "a name or address that is reserved"
  | .unboundName qualifier => "no address for the qualifier " ++ qualifier
  | .duplicateAttribute name => "the attribute " ++ name ++ " is repeated"
  | .mismatchedEnd name => "unexpected end of " ++ name
  | .textOutsideRoot => "text outside the root element"
  | .missingRoot => "no root element"
  | .unclosedElement => "an element without an end"

end MediaHash.Xml
