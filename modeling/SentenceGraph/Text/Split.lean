/-!
# Splitting at a separator

A sequence of characters is cut at every occurrence of a separator. There is always one more piece
than separators, and pieces may be empty.
-/

namespace SentenceGraph.Text

/-- The pieces between the occurrences of a separator. -/
def splitAt (separator : Char) : List Char → List (List Char)
  | [] => [[]]
  | character :: rest =>
      let pieces := splitAt separator rest
      if character == separator then [] :: pieces
      else
        match pieces with
        | piece :: others => (character :: piece) :: others
        | [] => [[character]]

/-- The pieces of a text between the occurrences of a separator. -/
def split (separator : Char) (text : String) : List String :=
  (splitAt separator text.toList).map String.ofList

end SentenceGraph.Text
