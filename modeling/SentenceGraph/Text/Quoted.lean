import SentenceGraph.Text.Printable

/-!
# Quoted text

The form in which a text stands inside a one-line value: between quotes, with the quote, the
backslash and all characters that are not printable escaped. Single quotes are used unless the text
holds a single quote and no double quote.
-/

namespace SentenceGraph.Text

/-- The lowercase hexadecimal digit of a value below sixteen. -/
def hexDigit (value : Nat) : Char :=
  if value < 10 then Char.ofNat ('0'.toNat + value) else Char.ofNat ('a'.toNat + (value - 10))

/-- The last `width` hexadecimal digits of a number. -/
def hexDigits (width value : Nat) : List Char :=
  (List.range width).reverse.map fun place => hexDigit (value / Nat.pow 16 place % 16)

/-- The escape of a character that is not printable: two, four or eight hexadecimal digits. -/
def escapeCodePoint (character : Char) : List Char :=
  let point := character.toNat
  if point < 0x100 then '\\' :: 'x' :: hexDigits 2 point
  else if point < 0x10000 then '\\' :: 'u' :: hexDigits 4 point
  else '\\' :: 'U' :: hexDigits 8 point

/-- One character between quotes of the given kind. -/
def quoteChar (mark character : Char) : List Char :=
  if character == mark || character == '\\' then ['\\', character]
  else if character == '\n' then ['\\', 'n']
  else if character == '\r' then ['\\', 'r']
  else if character == '\t' then ['\\', 't']
  else if isPrintable character then [character]
  else escapeCodePoint character

/-- The quote that surrounds a text. -/
def quoteMark (characters : List Char) : Char :=
  if characters.contains '\'' && !characters.contains '"' then '"' else '\''

/-- The quoted form of a text. -/
def quoted (text : String) : String :=
  let characters := text.toList
  let mark := quoteMark characters
  String.ofList (mark :: (characters.flatMap (quoteChar mark) ++ [mark]))

end SentenceGraph.Text
