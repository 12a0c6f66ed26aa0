import SentenceGraph.Value.Inline

/-!
# Outlines

An outline shows an object as lines: a `key: value` line for each member with a scalar value, and a
`key:` line followed by a deeper block for each member that is an object or a list. An item of a
list gets a line with a dash; an item that is an object has its members below the dash. Lists that
are items of lists stay on the line of the dash.
-/

namespace SentenceGraph.Outline

variable {R : Type} [Quantity R]

/-- The indentation of a level. -/
def indentation (depth : Nat) : String :=
  String.ofList (List.replicate (2 * depth) ' ')

mutual

/-- The lines of the members of an object. -/
def memberLines (depth : Nat) : List (String × Value R) → List String
  | [] => []
  | (key, .object members) :: rest =>
      (indentation depth ++ key ++ ":") :: (memberLines (depth + 1) members ++ memberLines depth rest)
  | (key, .list items) :: rest =>
      (indentation depth ++ key ++ ":") :: (itemLines depth items ++ memberLines depth rest)
  | (key, value) :: rest =>
      (indentation depth ++ key ++ ": " ++ value.scalarText) :: memberLines depth rest

def itemLines (depth : Nat) : List (Value R) → List String
  | [] => []
  | .object members :: rest =>
      (indentation depth ++ "  -") :: (memberLines (depth + 2) members ++ itemLines depth rest)
  | item :: rest =>
      (indentation depth ++ "  - " ++ item.scalarText) :: itemLines depth rest

end

/-- The outline of an object: every line ends with a line feed. -/
def print (depth : Nat) (members : List (String × Value R)) : String :=
  String.join ((memberLines depth members).map (· ++ "\n"))

end SentenceGraph.Outline
