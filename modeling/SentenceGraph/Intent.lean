import SentenceGraph.Text.DecimalDigit
import SentenceGraph.Text.WholeWord
import SentenceGraph.Token

/-!
# Intents

What a sentence is for: arithmetic, a question, a command, a statement, or nothing known. The rules
look at the sentence as running text and are tried in order; each gives a fixed confidence.
-/

namespace SentenceGraph

/-- What a sentence is for. The kinds form an open vocabulary: a graph may come with others. -/
structure Intent (R : Type) where
  kind : String
  confidence : R
  operation : Option String := none
  subtype : Option String := none
  action : Option String := none
deriving Repr

namespace Intent

variable {R : Type} [Quantity R]

/-- The intent of a sentence that no rule knows. -/
def unknown : Intent R where
  kind := "unknown"
  confidence := 0.5

def arithmetic (operation : String) : Intent R where
  kind := "math_operation"
  confidence := 0.95
  operation := some operation

/-- A question that starts with this word. -/
def question (word : String) : Intent R where
  kind := "question"
  confidence := 0.9
  subtype := some word

/-- A command to make something. -/
def command : Intent R where
  kind := "command"
  confidence := 0.85
  action := some "create"

/-- A plain statement. -/
def statement : Intent R where
  kind := "statement"
  confidence := 0.8
  subtype := some "declarative"

omit [Quantity R] in
/-- The members of an intent that are there, as a document. -/
def toValue (intent : Intent R) : Value R :=
  let given (key : String) (value : Option String) : List (String × Value R) :=
    value.toList.map fun content => (key, .text content)
  .object
    (("type", .text intent.kind) ::
      (given "operation" intent.operation ++ given "subtype" intent.subtype ++
        given "action" intent.action ++ [("confidence", .real intent.confidence)]))

/-- An arithmetic operation with the words and the symbol that call for it. -/
structure Operation where
  name : String
  keywords : List String
  symbol : Char

/-- The operations, in the order in which they are tried. -/
def operations : List Operation :=
  [⟨"addition", ["add", "adds", "added", "adding", "sum", "plus"], '+'⟩,
    ⟨"subtraction", ["subtract", "subtracts", "subtracted", "subtracting", "minus"], '-'⟩,
    ⟨"multiplication", ["multiply", "multiplies", "multiplied", "multiplying", "times"], '*'⟩,
    ⟨"division", ["divide", "divides", "divided", "dividing"], '/'⟩]

/-- Words that start a question. -/
def questionWords : List String := ["what", "who", "where", "when", "why", "how", "which"]

/-- Words that start a command. -/
def commandWords : List String := ["create", "make", "build", "generate", "write", "develop"]

/-- Words that make a statement. -/
def copulaWords : List String := ["is", "are", "am", "was", "were"]

/-- Whether a text calls for the operation: by a keyword or the symbol. -/
def Operation.isCalledFor (operation : Operation) (text : List Char) : Bool :=
  Text.hasAnyWord text operation.keywords || text.contains operation.symbol

/-- The operation that a text with a digit calls for. -/
def operation? (text : List Char) : Option Operation :=
  if text.any Text.isDecimalDigit then operations.find? (·.isCalledFor text) else none

/-- The intent of a text. The subtype of a question is the text up to the first space. -/
def ofChars (text : List Char) : Intent R :=
  match operation? text with
  | some operation => arithmetic operation.name
  | none =>
      if Text.startsWithAnyWord text questionWords then
        question (String.ofList (text.takeWhile (· != ' ')))
      else if Text.startsWithAnyWord text commandWords then command
      else if Text.hasAnyWord text copulaWords then statement
      else unknown

def ofText (text : String) : Intent R :=
  ofChars text.toList

/-- The intent of a sentence: that of its lowercase words with single spaces between them. -/
def ofTokens (tokens : List (Token R)) : Intent R :=
  ofText (" ".intercalate (tokens.map Token.lowercase))

end Intent

end SentenceGraph
