import SentenceGraph.Decimal.Integer
import SentenceGraph.Text.Quoted
import SentenceGraph.Value

/-!
# JSON text of a value

A value is written on one line or with one line per item. Characters beyond ASCII are kept; quotes,
backslashes and control characters are escaped. Quantities that are no number are written as the
words `NaN`, `Infinity` and `-Infinity`.
-/

namespace SentenceGraph.Json

/-- How the items of a list and the members of an object are set apart. -/
inductive Layout where
  /-- All on one line. -/
  | oneLine
  /-- Each on its own line, indented by this many spaces per level. -/
  | indented (width : Nat)

/-- The layout of rendered documents. -/
def Layout.document : Layout := .indented 2

/-- A new line at a level of nesting. -/
def newLine (width depth : Nat) : List Char :=
  '\n' :: List.replicate (width * depth) ' '

/-- What stands before the first item and after the last one, at a level of nesting. -/
def Layout.edge : Layout → (depth : Nat) → List Char
  | .oneLine, _ => []
  | .indented width, depth => newLine width depth

/-- What stands after the comma between two items. -/
def Layout.gap : Layout → (depth : Nat) → List Char
  | .oneLine, _ => [' ']
  | .indented width, depth => newLine width depth

/-- One character of a JSON string. -/
def escapeChar (character : Char) : List Char :=
  if character == '"' then ['\\', '"']
  else if character == '\\' then ['\\', '\\']
  else if character == '\n' then ['\\', 'n']
  else if character == '\r' then ['\\', 'r']
  else if character == '\t' then ['\\', 't']
  else if character == '\x08' then ['\\', 'b']
  else if character == '\x0c' then ['\\', 'f']
  else if character.toNat < 0x20 then '\\' :: 'u' :: Text.hexDigits 4 character.toNat
  else [character]

def writeString (content : String) : List Char :=
  '"' :: (content.toList.flatMap escapeChar ++ ['"'])

variable {R : Type} [Quantity R]

def writeReal (quantity : R) : List Char :=
  match Quantity.nonFinite? quantity with
  | none => (Quantity.text quantity).toList
  | some .notANumber => "NaN".toList
  | some (.infinite negative) => (if negative then "-Infinity" else "Infinity").toList

mutual

/-- The JSON text of a value at a level of nesting. -/
def write (layout : Layout) (depth : Nat) : Value R → List Char
  | .null => "null".toList
  | .bool truth => (if truth then "true" else "false").toList
  | .int number => Decimal.integerChars number
  | .real quantity => writeReal quantity
  | .text content => writeString content
  | .list [] => ['[', ']']
  | .list (item :: rest) =>
      '[' :: (layout.edge (depth + 1) ++ write layout (depth + 1) item ++
        writeItems layout (depth + 1) rest ++ layout.edge depth ++ [']'])
  | .object [] => ['\x7b', '\x7d']
  | .object ((key, value) :: rest) =>
      '\x7b' :: (layout.edge (depth + 1) ++ writeString key ++ ':' :: ' ' ::
        write layout (depth + 1) value ++ writeMembers layout (depth + 1) rest ++
        layout.edge depth ++ ['\x7d'])

/-- The items of a list after the first one. -/
def writeItems (layout : Layout) (depth : Nat) : List (Value R) → List Char
  | [] => []
  | item :: rest =>
      ',' :: (layout.gap depth ++ write layout depth item ++ writeItems layout depth rest)

/-- The members of an object after the first one. -/
def writeMembers (layout : Layout) (depth : Nat) : List (String × Value R) → List Char
  | [] => []
  | (key, value) :: rest =>
      ',' :: (layout.gap depth ++ writeString key ++ ':' :: ' ' ::
        write layout depth value ++ writeMembers layout depth rest)

end

/-- The JSON text of a value. -/
def print (layout : Layout) (value : Value R) : String :=
  String.ofList (write layout 0 value)

end SentenceGraph.Json
