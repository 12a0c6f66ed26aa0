import SentenceGraph.Text.WordChar

/-!
# Words of a text

The words of a text are its maximal runs of word characters, in order. Everything between them
(punctuation, symbols, white space) only separates.
-/

namespace SentenceGraph.Text

/-- The runs of word characters, where `current` holds the run that is being read, last first. -/
def runsFrom (current : List Char) : List Char → List (List Char)
  | [] => if current.isEmpty then [] else [current.reverse]
  | character :: rest =>
      if isWordChar character then runsFrom (character :: current) rest
      else if current.isEmpty then runsFrom [] rest
      else current.reverse :: runsFrom [] rest

/-- The maximal runs of word characters. -/
def runs (characters : List Char) : List (List Char) :=
  runsFrom [] characters

/-- The words of a text, in order. -/
def words (text : String) : List String :=
  (runs text.toList).map String.ofList

end SentenceGraph.Text
