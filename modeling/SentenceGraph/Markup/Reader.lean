import SentenceGraph.Markup

/-!
# Reading XML documents

The reader knows the part of XML 1.0 that documents are written in: the prolog, tags without
attributes, elements that are closed where they are opened, and character data with the three
entities of markup. Whatever it accepts is well-formed: every tag is closed by one of the same name,
the root stands alone but for white space, and all characters are characters of XML.

A text is cut into pieces first, which are tags and characters; from these the tree is assembled.
A processor does so after it has made all line ends of the document alike.
-/

namespace SentenceGraph.Markup

/-- A node of a document. -/
inductive Node where
  | element (name : String) (children : List Node)
  | text (content : String)
deriving Inhabited, Repr

/-- What a document is made of. -/
inductive Piece where
  | opening (name : String)
  | closing (name : String)
  /-- The tag of an empty element. -/
  | single (name : String)
  /-- A character, written as it is or as an entity. -/
  | character (character : Char)
deriving DecidableEq, Repr

/-- A name at the start of a text, and what follows it. -/
def readName? (characters : List Char) : Option (String × List Char) :=
  match characters.takeWhile isNameChar with
  | first :: others =>
      if first.isDigit then none
      else some (String.ofList (first :: others), characters.dropWhile isNameChar)
  | [] => none

/-- A tag after its opening bracket, and what follows it. -/
def readTag? : List Char → Option (Piece × List Char)
  | '/' :: characters =>
      match readName? characters with
      | some (name, '>' :: rest) => some (.closing name, rest)
      | _ => none
  | characters =>
      match readName? characters with
      | some (name, '>' :: rest) => some (.opening name, rest)
      | some (name, '/' :: '>' :: rest) => some (.single name, rest)
      | _ => none

/-- The character of an entity after its ampersand, and what follows it. -/
def readEntity? : List Char → Option (Piece × List Char)
  | 'a' :: 'm' :: 'p' :: ';' :: rest => some (.character '&', rest)
  | 'l' :: 't' :: ';' :: rest => some (.character '<', rest)
  | 'g' :: 't' :: ';' :: rest => some (.character '>', rest)
  | _ => none

/-- The first piece of a text, and what follows it. -/
def readPiece? : List Char → Option (Piece × List Char)
  | '<' :: rest => readTag? rest
  | '&' :: rest => readEntity? rest
  | character :: rest =>
      if character != '>' && isXmlChar character then some (.character character, rest) else none
  | [] => none

theorem length_of_readName? {characters rest : List Char} {name : String}
    (found : readName? characters = some (name, rest)) : rest.length ≤ characters.length := by
  rw [readName?] at found
  split at found
  · split at found
    · contradiction
    · cases found
      exact (List.dropWhile_sublist _).length_le
  · contradiction

theorem length_of_readTag? {characters rest : List Char} {piece : Piece}
    (found : readTag? characters = some (piece, rest)) : rest.length < characters.length := by
  rw [readTag?.eq_def] at found
  split at found
  · split at found
    · rename_i named
      have shorter := length_of_readName? named
      cases found
      simp only [List.length_cons] at shorter ⊢
      omega
    · contradiction
  · split at found
    · rename_i named
      have shorter := length_of_readName? named
      cases found
      simp only [List.length_cons] at shorter ⊢
      omega
    · rename_i named
      have shorter := length_of_readName? named
      cases found
      simp only [List.length_cons] at shorter ⊢
      omega
    · contradiction

theorem length_of_readPiece? {characters rest : List Char} {piece : Piece}
    (found : readPiece? characters = some (piece, rest)) : rest.length < characters.length := by
  rw [readPiece?.eq_def] at found
  split at found
  · have shorter := length_of_readTag? found
    exact Nat.lt_succ_of_lt shorter
  · rw [readEntity?.eq_def] at found
    split at found
    all_goals cases found
    all_goals
      simp only [List.length_cons]
      omega
  · split at found
    · cases found
      exact Nat.lt_succ_self _
    · contradiction
  · contradiction

/-- The pieces of a text. -/
def pieces? (characters : List Char) : Option (List Piece) :=
  match _ : readPiece? characters with
  | some (piece, rest) => (pieces? rest).map (piece :: ·)
  | none => if characters.isEmpty then some [] else none
termination_by characters.length
decreasing_by exact length_of_readPiece? ‹_›

/-- Adds a character to the nodes before it: to the text that they end with, if they do. -/
def addCharacter (nodes : List Node) (character : Char) : List Node :=
  match nodes.getLast? with
  | some (.text content) => nodes.dropLast ++ [.text (content.push character)]
  | _ => nodes ++ [.text (String.singleton character)]

/-- Assembles the nodes of a document. `children` are the nodes so far of the innermost element that
is open, and `outer` has the names of the open elements, each with the nodes before it. -/
def assemble (children : List Node) (outer : List (String × List Node)) :
    List Piece → Option (List Node)
  | [] => if outer.isEmpty then some children else none
  | .character character :: rest => assemble (addCharacter children character) outer rest
  | .single name :: rest => assemble (children ++ [.element name []]) outer rest
  | .opening name :: rest => assemble [] ((name, children) :: outer) rest
  | .closing name :: rest =>
      match outer with
      | (opened, siblings) :: outer =>
          if opened == name then assemble (siblings ++ [.element name children]) outer rest
          else none
      | [] => none

/-- White space of XML. -/
def isSpace (character : Char) : Bool :=
  character == ' ' || character == '\t' || character == '\n' || character == '\r'

/-- Whether a node is a text of white space. -/
def Node.isBlank : Node → Bool
  | text content => content.toList.all isSpace
  | element .. => false

/-- The nodes that are no texts of white space. -/
def significant (nodes : List Node) : List Node :=
  nodes.filter (!·.isBlank)

/-- The root element of a document. -/
def read? (document : String) : Option Node :=
  if prolog.toList.isPrefixOf document.toList then
    match (pieces? (document.toList.drop prolog.toList.length)).bind (assemble [] []) with
    | some nodes =>
        match significant nodes with
        | [.element name children] => some (.element name children)
        | _ => none
    | none => none
  else none

/-- Line ends as a processor sees them: a carriage return is left out before a line feed, and becomes
one elsewhere. -/
def unifyLineEnds : List Char → List Char
  | [] => []
  | character :: rest =>
      if character = '\r' then
        if rest.head? = some '\n' then unifyLineEnds rest else '\n' :: unifyLineEnds rest
      else character :: unifyLineEnds rest

/-- The root element of a document, as a processor reports it. -/
def process? (document : String) : Option Node :=
  read? (String.ofList (unifyLineEnds document.toList))

end SentenceGraph.Markup
