import SentenceGraph.Value.Inline

/-!
# XML documents

An object becomes an element with one child per member, a list an element with one `item` child per
item, null an empty element, and any other scalar an element that holds the text of the scalar. Keys
are turned into element names of ASCII letters, digits and underscores; characters that XML cannot
carry are left out of texts, and the three characters of markup are written as entities.
-/

namespace SentenceGraph.Markup

/-- The name of the root element of a document. -/
def rootName : String := "nlcompiler"

/-- The name of the elements of list items. -/
def itemName : String := "item"

/-- The first line of a document. -/
def prolog : String := "<?xml version=\"1.0\" encoding=\"UTF-8\"?>"

/-- The characters that an XML 1.0 document may hold. -/
def isXmlChar (character : Char) : Bool :=
  let point := character.toNat
  point == 0x9 || point == 0xA || point == 0xD || (0x20 ≤ point && point ≤ 0xD7FF) ||
    (0xE000 ≤ point && point ≤ 0xFFFD) || 0x10000 ≤ point

/-- The characters of an element name. -/
def isNameChar (character : Char) : Bool :=
  character.isAlphanum || character == '_'

/-- One character of element content. -/
def escapeChar (character : Char) : List Char :=
  if character == '&' then "&amp;".toList
  else if character == '<' then "&lt;".toList
  else if character == '>' then "&gt;".toList
  else [character]

/-- The content that shows a text. -/
def contentOfText (content : String) : String :=
  String.ofList ((content.toList.filter isXmlChar).flatMap escapeChar)

/-- The characters of the element name for a key. -/
def nameChars (key : List Char) : List Char :=
  let replaced := key.map fun character => if isNameChar character then character else '_'
  match replaced with
  | [] => ['_']
  | first :: _ => if first.isDigit then '_' :: replaced else replaced

/-- The element name for a key: other characters become underscores, and a name that would be empty
or start with a digit gets an underscore in front. -/
def elementName (key : String) : String :=
  String.ofList (nameChars key.toList)

/-- The indentation of a level. -/
def indentation (depth : Nat) : String :=
  String.ofList (List.replicate (2 * depth) ' ')

variable {R : Type} [Quantity R]

/-- The element content that shows a scalar. -/
def content (value : Value R) : String :=
  contentOfText value.scalarText

mutual

def elementLines (depth : Nat) (name : String) : Value R → List String
  | .null => [indentation depth ++ "<" ++ name ++ "/>"]
  | .object members =>
      (indentation depth ++ "<" ++ name ++ ">") ::
        (memberLines (depth + 1) members ++ [indentation depth ++ "</" ++ name ++ ">"])
  | .list items =>
      (indentation depth ++ "<" ++ name ++ ">") ::
        (itemLines (depth + 1) items ++ [indentation depth ++ "</" ++ name ++ ">"])
  | value => [indentation depth ++ "<" ++ name ++ ">" ++ content value ++ "</" ++ name ++ ">"]

/-- The lines of the children of a list. -/
def itemLines (depth : Nat) : List (Value R) → List String
  | [] => []
  | item :: rest => elementLines depth itemName item ++ itemLines depth rest

/-- The lines of the children of an object. -/
def memberLines (depth : Nat) : List (String × Value R) → List String
  | [] => []
  | (key, value) :: rest => elementLines depth (elementName key) value ++ memberLines depth rest

end

/-- The XML document of an object. -/
def print (root : String) (members : List (String × Value R)) : String :=
  "\n".intercalate
    (prolog :: ("<" ++ root ++ ">") :: (memberLines 1 members ++ ["</" ++ root ++ ">"]))

end SentenceGraph.Markup
