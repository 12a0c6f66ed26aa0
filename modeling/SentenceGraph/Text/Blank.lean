/-!
# Blank characters

Two classes of white space. `isBlank` is the class that surrounds a request and is trimmed from it.
`isNumeralBlank` may surround a numeral: it lacks the four information separators.
-/

namespace SentenceGraph.Text

/-- White space of Unicode, together with the information separators U+001C to U+001F. -/
def isBlank (character : Char) : Bool :=
  let point := character.toNat
  (0x09 ≤ point && point ≤ 0x0D) || (0x1C ≤ point && point ≤ 0x20) || point == 0x85 ||
    point == 0xA0 || point == 0x1680 || (0x2000 ≤ point && point ≤ 0x200A) || point == 0x2028 ||
    point == 0x2029 || point == 0x202F || point == 0x205F || point == 0x3000

/-- White space that may stand around a numeral. -/
def isNumeralBlank (character : Char) : Bool :=
  isBlank character && !(0x1C ≤ character.toNat && character.toNat ≤ 0x1F)

/-- Drops the leading and trailing members of a class. -/
def trimWhere (drop : Char → Bool) (characters : List Char) : List Char :=
  ((characters.dropWhile drop).reverse.dropWhile drop).reverse

/-- Drops leading and trailing blanks. -/
def trim (text : String) : String :=
  String.ofList (trimWhere isBlank text.toList)

end SentenceGraph.Text
