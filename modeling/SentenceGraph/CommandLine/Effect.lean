import SentenceGraph.Fault
import SentenceGraph.Text.Split

/-!
# Effects of a command

What a command does to the world around it: texts on the output and on the two error channels,
files, and how it ends.
-/

namespace SentenceGraph.CommandLine

/-- The effects of a command so far. -/
structure Effect where
  output : String := ""
  /-- Remarks on the progress of a compilation. -/
  notes : String := ""
  errors : String := ""
  /-- Files that were written, with their contents. -/
  files : List (String × String) := []
  exitCode : Nat := 0
  /-- Whether the usage is to be shown. -/
  showsUsage : Bool := false
  /-- The fault that ended the command, if one did. -/
  fault : Option Fault := none

/-- The segments of a path that lead somewhere. -/
def pathSegments (path : String) : List String :=
  (Text.split '/' path).filter fun segment => segment != "" && segment != "."

/-- A path without segments that lead nowhere. -/
def tidyPath (path : String) : String :=
  let relative := "/".intercalate (pathSegments path)
  if path.toList.head? == some '/' then "/" ++ relative else relative

/-- What stands in the way of writing to a path below a directory that is empty. -/
def emptyDirectoryFault (path : String) : Option Fault :=
  match pathSegments path with
  | [] | [".."] => some (.notAFile path)
  | [_] => none
  | _ => some (.noSuchFile path)

namespace Effect

/-- Adds a line to the output. -/
def say (effect : Effect) (line : String) : Effect :=
  { effect with output := effect.output ++ line ++ "\n" }

/-- Adds text to the output without ending the line. -/
def write (effect : Effect) (text : String) : Effect :=
  { effect with output := effect.output ++ text }

/-- Adds a remark. -/
def note (effect : Effect) (line : String) : Effect :=
  { effect with notes := effect.notes ++ line ++ "\n" }

/-- Adds a line to the error channel. -/
def warn (effect : Effect) (line : String) : Effect :=
  { effect with errors := effect.errors ++ line ++ "\n" }

/-- Ends a command with an exit code. -/
def exit (effect : Effect) (code : Nat) : Effect :=
  { effect with exitCode := code }

/-- Ends a command with a fault. -/
def fail (effect : Effect) (fault : Fault) : Effect :=
  { effect with fault := some fault }

/-- Reports an error to the user and ends with exit code one. -/
def reportError (effect : Effect) (message : String) : Effect :=
  (effect.say ("✗ Error: " ++ message)).exit 1

/-- Writes a file, in the place of an earlier one of its name. -/
def writeFile (effect : Effect) (path content : String) : Effect :=
  let name := tidyPath path
  { effect with files := effect.files.filter (·.1 != name) ++ [(name, content)] }

end Effect

end SentenceGraph.CommandLine
