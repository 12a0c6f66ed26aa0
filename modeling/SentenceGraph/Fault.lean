import SentenceGraph.Decimal.Integer

/-!
# What can go wrong

All causes of failure of the library, and the text that reports each of them. A cause holds what its
text mentions and nothing else.
-/

namespace SentenceGraph

/-- The shapes of values, as far as an error text names them. -/
inductive Shape where
  | nothing
  | truth
  | integer
  | real
  | text
  | list
  | mapping
deriving DecidableEq, Repr

/-- The name of a shape in an error text. -/
def Shape.name : Shape → String
  | .nothing => "NoneType"
  | .truth => "bool"
  | .integer => "int"
  | .real => "float"
  | .text => "str"
  | .list => "list"
  | .mapping => "dict"

/-- Why a dictionary reply gives no entry. -/
inductive LookupFailure where
  /-- The service answered with a status other than 200. -/
  | status (code : Int)
  /-- The body is not JSON. -/
  | invalidBody
  /-- The body is not a list that starts with an object. -/
  | unexpectedPayload
  /-- A part of the entry has a shape that cannot be read. -/
  | malformed
  /-- A part of the entry lacks a key. -/
  | missingKey (key : String)
  /-- No reply came back. -/
  | unreachable (reason : String)
deriving DecidableEq, Repr

/-- The text of a failed lookup. -/
def LookupFailure.message : LookupFailure → String
  | .status code => "HTTP " ++ Decimal.integerText code
  | .invalidBody => "invalid JSON"
  | .unexpectedPayload => "unexpected payload shape"
  | .malformed => "malformed entry"
  | .missingKey key => "malformed entry: '" ++ key ++ "'"
  | .unreachable reason => reason

/-- The causes of failure. -/
inductive Fault where
  /-- A context memory must hold at least one entry. -/
  | capacityTooSmall (shown : String)
  /-- A context memory must fit into the machine. -/
  | capacityTooLarge
  /-- A setting is not an integer; the text is quoted. -/
  | notAnInteger (quoted : String)
  /-- A setting is not a number; the text is quoted. -/
  | notANumber (quoted : String)
  /-- A phase id that is not registered, and the registered ones. -/
  | unknownPhase (id : String) (known : List String)
  /-- Phases that depend on each other in a circle; the first is repeated at the end. -/
  | dependencyCycle (path : List String)
  /-- A phase was to be run before one that it depends on. -/
  | missingInput (id : String)
  /-- A member was asked of a value of a shape that has none of that name. -/
  | noSuchMember (shape : Shape) (member : String)
  /-- A dictionary reply gave no entry. -/
  | lookupFailed (failure : LookupFailure)
  /-- A part supplied from outside broke down. -/
  | crashed (message : String)
  /-- An operation met a value of the wrong shape. -/
  | wrongShape
  /-- A mean over zero records. -/
  | divisionByZero
  /-- A stored text is not JSON. -/
  | malformedJson
  /-- An integer beyond the range of quantities. -/
  | integerTooLarge
  /-- A time that is infinite. -/
  | infiniteTime
  /-- A time that is no number. -/
  | undefinedTime
  /-- A file in a directory that does not exist. -/
  | noSuchFile (path : String)
  /-- A directory in the place of a file. -/
  | notAFile (path : String)
deriving DecidableEq, Repr

/-- The text that reports a failure. -/
def Fault.message : Fault → String
  | .capacityTooSmall shown => "capacity must be positive, got " ++ shown
  | .capacityTooLarge => "Python int too large to convert to C ssize_t"
  | .notAnInteger quoted => "invalid literal for int() with base 10: " ++ quoted
  | .notANumber quoted => "could not convert string to float: " ++ quoted
  | .unknownPhase id known =>
      "Unknown layer: " ++ id ++ ". Available: " ++ ", ".intercalate known
  | .dependencyCycle path => "Dependency cycle: " ++ " -> ".intercalate path
  | .missingInput id => "'" ++ id ++ "'"
  | .noSuchMember shape member =>
      "'" ++ shape.name ++ "' object has no attribute '" ++ member ++ "'"
  | .lookupFailed failure => failure.message
  | .crashed message => message
  | .wrongShape => "unsupported operand type"
  | .divisionByZero => "float division by zero"
  | .malformedJson => "malformed JSON"
  | .integerTooLarge => "int too large to convert to float"
  | .infiniteTime => "cannot convert float infinity to integer"
  | .undefinedTime => "cannot convert float NaN to integer"
  | .noSuchFile path => "[Errno 2] No such file or directory: '" ++ path ++ "'"
  | .notAFile path => "[Errno 21] Is a directory: '" ++ path ++ "'"

end SentenceGraph
