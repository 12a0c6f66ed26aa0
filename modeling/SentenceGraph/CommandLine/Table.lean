/-!
# Boxed tables

A table has a title, a head and one row, all right-justified in columns as wide as their contents.
-/

namespace SentenceGraph.CommandLine

/-- A column with its head and its cell. -/
structure Column where
  head : String
  cell : String

/-- The width of the contents of a column. -/
def Column.width (column : Column) : Nat :=
  max column.head.length column.cell.length

/-- A run of one character. -/
def repeated (character : Char) (count : Nat) : String :=
  String.ofList (List.replicate count character)

/-- A text moved to the right end of a width. -/
def rightJustified (width : Nat) (text : String) : String :=
  repeated ' ' (width - text.length) ++ text

/-- A text in the middle of a width; an odd space goes to the right. -/
def centered (width : Nat) (text : String) : String :=
  let free := width - text.length
  repeated ' ' (free / 2) ++ text ++ repeated ' ' (free - free / 2)

/-- A line of a box: a rule per column, between a left end, joints and a right end. -/
def ruleLine (columns : List Column) (left joint right : String) (rule : Char) : String :=
  left ++ joint.intercalate (columns.map fun column => repeated rule (column.width + 2)) ++ right

def contentLine (columns : List Column) (edge : String) (content : Column → String) : String :=
  edge ++
    edge.intercalate
      (columns.map fun column => " " ++ rightJustified column.width (content column) ++ " ") ++
    edge

def tableLines (title : String) (columns : List Column) : List String :=
  let head := ruleLine columns "┏" "┳" "┓" '━'
  [centered head.length title, head, contentLine columns "┃" Column.head,
    ruleLine columns "┡" "╇" "┩" '━', contentLine columns "│" Column.cell,
    ruleLine columns "└" "┴" "┘" '─']

end SentenceGraph.CommandLine
