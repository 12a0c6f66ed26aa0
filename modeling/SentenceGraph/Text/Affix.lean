/-!
# Beginnings and endings of texts

Tests for the ending of a text, and texts without a beginning or an ending.
-/

namespace SentenceGraph.Text

def hasEnding (text ending : String) : Bool :=
  ending.toList.isSuffixOf text.toList

/-- A text without one occurrence of the beginning, if it has it. -/
def dropBeginning (text beginning : String) : String :=
  if beginning.toList.isPrefixOf text.toList then
    String.ofList (text.toList.drop beginning.toList.length)
  else text

/-- An address without its trailing slashes. -/
def dropTrailingSlashes (address : String) : String :=
  String.ofList (address.toList.reverse.dropWhile (· == '/')).reverse

end SentenceGraph.Text
