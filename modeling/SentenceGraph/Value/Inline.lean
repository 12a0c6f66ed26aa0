import SentenceGraph.Decimal.Integer
import SentenceGraph.Text.Quoted
import SentenceGraph.Value

/-!
# Values on one line

Two forms of a value within a line of text. `literal` shows the structure: texts are quoted, lists
stand in brackets and objects in braces. `inline` is the same, but for a text by itself, which is
written as it is.
-/

namespace SentenceGraph.Value

variable {R : Type} [Quantity R]

mutual

/-- The form of a value that shows its structure. -/
def literal : Value R → String
  | null => "None"
  | bool truth => if truth then "True" else "False"
  | int number => Decimal.integerText number
  | real quantity => Quantity.text quantity
  | text content => Text.quoted content
  | list items => "[" ++ ", ".intercalate (itemLiterals items) ++ "]"
  | object members => "\x7b" ++ ", ".intercalate (memberLiterals members) ++ "\x7d"

def itemLiterals : List (Value R) → List String
  | [] => []
  | item :: rest => literal item :: itemLiterals rest

/-- The literals of the members of an object. -/
def memberLiterals : List (String × Value R) → List String
  | [] => []
  | (key, value) :: rest =>
      (Text.quoted key ++ ": " ++ literal value) :: memberLiterals rest

end

/-- The form of a value within a sentence. -/
def inline : Value R → String
  | text content => content
  | other => literal other

/-- The form of a value as the content of a line: null and truth values have their document
spelling. -/
def scalarText : Value R → String
  | null => "null"
  | bool truth => if truth then "true" else "false"
  | other => inline other

end SentenceGraph.Value
