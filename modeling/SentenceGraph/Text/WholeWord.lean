import SentenceGraph.Text.WordChar

/-!
# Keywords in running text

A keyword occurs in a text where it is not part of a longer word: the characters on both sides of
the occurrence, if there are any, are no word characters.
-/

namespace SentenceGraph.Text

/-- Whether a text starts with the keyword and the keyword ends there as a word. -/
def startsWithWord (keyword characters : List Char) : Bool :=
  keyword.isPrefixOf characters &&
    match characters.drop keyword.length with
    | [] => true
    | next :: _ => !isWordChar next

/-- Whether the keyword occurs in the rest of a text; `inWord` tells whether the character before
the rest is a word character. -/
def occursFrom (keyword : List Char) (inWord : Bool) : List Char → Bool
  | [] => !inWord && startsWithWord keyword []
  | character :: rest =>
      (!inWord && startsWithWord keyword (character :: rest)) ||
        occursFrom keyword (isWordChar character) rest

/-- Whether the keyword occurs in the text as a whole word. -/
def hasWord (text : List Char) (keyword : String) : Bool :=
  occursFrom keyword.toList false text

/-- Whether one of the keywords occurs in the text as a whole word. -/
def hasAnyWord (text : List Char) (keywords : List String) : Bool :=
  keywords.any (hasWord text)

def startsWithAnyWord (text : List Char) (keywords : List String) : Bool :=
  keywords.any fun keyword => startsWithWord keyword.toList text

end SentenceGraph.Text
