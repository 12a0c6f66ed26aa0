import SentenceGraph.Decimal.Integer
import SentenceGraph.Value

/-!
# Reading JSON text

The reader accepts one value with white space around it and nothing else. Beyond the standard it
knows the words `NaN`, `Infinity` and `-Infinity`. A number with a fraction or an exponent is a
quantity, any other number an integer. Of members with one key the last value counts, at the place
of the first.
-/

namespace SentenceGraph.Json

/-- White space between the parts of a JSON text. -/
def isGap (character : Char) : Bool :=
  character == ' ' || character == '\t' || character == '\n' || character == '\r'

/-- Drops leading white space. -/
def skipGap (characters : List Char) : List Char :=
  characters.dropWhile isGap

/-- The value of a hexadecimal digit. -/
def hexValue? (digit : Char) : Option Nat :=
  if '0' ≤ digit && digit ≤ '9' then some (digit.toNat - '0'.toNat)
  else if 'a' ≤ digit && digit ≤ 'f' then some (digit.toNat - 'a'.toNat + 10)
  else if 'A' ≤ digit && digit ≤ 'F' then some (digit.toNat - 'A'.toNat + 10)
  else none

/-- Four hexadecimal digits, and what follows them. -/
def readUnit : List Char → Option (Nat × List Char)
  | first :: second :: third :: fourth :: rest => do
      let high := 16 * (← hexValue? first) + (← hexValue? second)
      let low := 16 * (← hexValue? third) + (← hexValue? fourth)
      return (256 * high + low, rest)
  | _ => none

/-- The character of an escape by number. Two units of a surrogate pair stand for one character; a
unit without its partner stands for the replacement character. -/
def readUnitEscape (characters : List Char) : Option (Char × List Char) := do
  let (unit, rest) ← readUnit characters
  if 0xD800 ≤ unit && unit < 0xDC00 then
    match rest with
    | '\\' :: 'u' :: after =>
        match readUnit after with
        | some (low, rest') =>
            if 0xDC00 ≤ low && low < 0xE000 then
              return (Char.ofNat (0x10000 + (unit - 0xD800) * 0x400 + (low - 0xDC00)), rest')
            else return ('\ufffd', rest)
        | none => return ('\ufffd', rest)
    | _ => return ('\ufffd', rest)
  else if 0xDC00 ≤ unit && unit < 0xE000 then return ('\ufffd', rest)
  else return (Char.ofNat unit, rest)

/-- The character that a one-letter escape stands for. -/
def shortEscape? (letter : Char) : Option Char :=
  if letter == '"' || letter == '\\' || letter == '/' then some letter
  else if letter == 'b' then some '\x08'
  else if letter == 'f' then some '\x0c'
  else if letter == 'n' then some '\n'
  else if letter == 'r' then some '\r'
  else if letter == 't' then some '\t'
  else none

/-- One character of a string, escaped or not. Control characters must be escaped. -/
def readStringChar : List Char → Option (Char × List Char)
  | '\\' :: 'u' :: rest => readUnitEscape rest
  | '\\' :: letter :: rest => (shortEscape? letter).map (·, rest)
  | character :: rest => if character.toNat < 0x20 then none else some (character, rest)
  | [] => none

/-- The rest of a string after the opening quote, through the closing one; `steps` bounds its
length. -/
def readString : (steps : Nat) → List Char → Option (List Char × List Char)
  | _, '"' :: rest => some ([], rest)
  | 0, _ => none
  | steps + 1, characters => do
      let (character, rest) ← readStringChar characters
      let (content, rest') ← readString steps rest
      return (character :: content, rest')

/-- A run of ASCII digits, and what follows it. -/
def spanDigits (characters : List Char) : List Char × List Char :=
  (characters.takeWhile Char.isDigit, characters.dropWhile Char.isDigit)

/-- The digits before the point: a zero by itself, or a run that starts with another digit. -/
def readWhole : List Char → Option (List Char × List Char)
  | '0' :: rest => some (['0'], rest)
  | characters =>
      match spanDigits characters with
      | ([], _) => none
      | (digits, rest) => some (digits, rest)

/-- The digits after a point; none if there is no point or no digit after it. -/
def readFraction (characters : List Char) : List Char × List Char :=
  match characters with
  | '.' :: rest =>
      match spanDigits rest with
      | ([], _) => ([], characters)
      | found => found
  | _ => ([], characters)

/-- The exponent; none if there is no mark or no digit after it. -/
def readExponent (characters : List Char) : Option Int × List Char :=
  match characters with
  | mark :: rest =>
      if mark == 'e' || mark == 'E' then
        let (negative, digits) :=
          match rest with
          | '-' :: after => (true, after)
          | '+' :: after => (false, after)
          | after => (false, after)
        match spanDigits digits with
        | ([], _) => (none, characters)
        | (found, after) =>
            let magnitude : Int := Decimal.ofDigits found
            (some (if negative then -magnitude else magnitude), after)
      else (none, characters)
  | [] => (none, characters)

variable {R : Type} [Quantity R]

/-- A number after its sign. -/
def readMagnitude (negative : Bool) (characters : List Char) : Option (Value R × List Char) := do
  let (whole, rest) ← readWhole characters
  let (fraction, rest) := readFraction rest
  let (exponent?, rest) := readExponent rest
  if fraction.isEmpty && exponent?.isNone then
    let magnitude : Int := Decimal.ofDigits whole
    return (.int (if negative then -magnitude else magnitude), rest)
  else
    let digits := Decimal.ofDigits (whole ++ fraction)
    let exponent := exponent?.getD 0 - fraction.length
    return (.real (Quantity.ofDecimal negative digits exponent), rest)

/-- The words of the notation. -/
def words : List (List Char × Value R) :=
  [("null".toList, .null), ("true".toList, .bool true), ("false".toList, .bool false),
    ("NaN".toList, .real (Quantity.ofNonFinite .notANumber)),
    ("Infinity".toList, .real (Quantity.ofNonFinite (.infinite false))),
    ("-Infinity".toList, .real (Quantity.ofNonFinite (.infinite true)))]

/-- A word or a number. -/
def readAtom (characters : List Char) : Option (Value R × List Char) :=
  match words.find? fun word => word.1.isPrefixOf characters with
  | some (word, value) => some (value, characters.drop word.length)
  | none =>
      match characters with
      | '-' :: rest => readMagnitude true rest
      | _ => readMagnitude false characters

/-- Sets a member: a known key keeps its place and takes the new value. -/
def setMember (members : List (String × Value R)) (key : String) (value : Value R) :
    List (String × Value R) :=
  if members.any (·.1 == key) then
    members.map fun member => if member.1 == key then (key, value) else member
  else members ++ [(key, value)]

mutual

/-- A value at the start of a text; `steps` bounds twice the length of the text. -/
def readValue : (steps : Nat) → List Char → Option (Value R × List Char)
  | 0, _ => none
  | steps + 1, characters =>
      match characters with
      | '"' :: rest => do
          let (content, rest) ← readString steps rest
          return (.text (String.ofList content), rest)
      | '[' :: rest =>
          match skipGap rest with
          | ']' :: rest => some (.list [], rest)
          | rest => do
              let (items, rest) ← readItems steps rest
              return (.list items, rest)
      | '\x7b' :: rest =>
          match skipGap rest with
          | '\x7d' :: rest => some (.object [], rest)
          | rest => do
              let (members, rest) ← readMembers steps [] rest
              return (.object members, rest)
      | _ => readAtom characters

/-- The items of a list that has at least one more, through the closing bracket. -/
def readItems : (steps : Nat) → List Char → Option (List (Value R) × List Char)
  | 0, _ => none
  | steps + 1, characters => do
      let (item, rest) ← readValue steps characters
      match skipGap rest with
      | ']' :: rest => return ([item], rest)
      | ',' :: rest =>
          let (items, rest) ← readItems steps (skipGap rest)
          return (item :: items, rest)
      | _ => none

/-- The members of an object that has at least one more, through the closing brace; `known` holds
the members before them. -/
def readMembers : (steps : Nat) → (known : List (String × Value R)) → List Char →
    Option (List (String × Value R) × List Char)
  | 0, _, _ => none
  | steps + 1, known, characters =>
      match characters with
      | '"' :: rest => do
          let (key, rest) ← readString steps rest
          match skipGap rest with
          | ':' :: rest =>
              let (value, rest) ← readValue steps (skipGap rest)
              let members := setMember known (String.ofList key) value
              match skipGap rest with
              | '\x7d' :: rest => return (members, rest)
              | ',' :: rest => readMembers steps members (skipGap rest)
              | _ => none
          | _ => none
      | _ => none

end

def read? (text : String) : Option (Value R) := do
  let characters := skipGap text.toList
  let (value, rest) ← readValue (2 * characters.length + 1) characters
  if (skipGap rest).isEmpty then return value else none

end SentenceGraph.Json
