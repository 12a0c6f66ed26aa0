import SentenceGraph.CommandLine.Arguments
import SentenceGraph.Phase.Standard

/-!
# Commands

The commands of the command line and the arguments that each of them takes.
-/

namespace SentenceGraph.CommandLine

/-- What is to be done. -/
inductive Command where
  /-- Compile a sentence and show or write its document. -/
  | compile (text : String) (format : String) (language : String) (offline quiet : Bool)
      (out : Option String)
  /-- Show the results of the phases for a sentence. -/
  | phases (text : String) (offline : Bool) (only : Option (List String))
  /-- Compile the lines of the input in one session. -/
  | converse (offline : Bool)
  /-- Compile a sentence on a server. -/
  | remoteCompile (text : String) (format : String) (session : Option String)
  /-- Show a session of a server. -/
  | remoteSession (id : String)
  /-- Forget a session of a server. -/
  | remoteForget (id : String)
  /-- List the phases. -/
  | layers
deriving Repr

/-- A command with the options that apply to all commands. -/
structure Invocation where
  debug : Bool
  logFile : Option String
  /-- The command; without one, the usage is shown. -/
  command : Option Command
deriving Repr

/-- An option without a value. -/
def switch (key : String) (spellings : List String) : OptionRule where
  key
  spellings
  arity := .none

/-- An option with a value. -/
def setting (key : String) (spellings : List String) (choices : Option (List String) := none) :
    OptionRule where
  key
  spellings
  arity := .one
  choices

/-- The option for the format of a document. -/
def formatRule : OptionRule :=
  setting "format" ["--format", "-f"] (some (Format.all.map Format.name))

/-- The option to leave the dictionary service alone. -/
def offlineRule : OptionRule := switch "offline" ["--offline"]

/-- The positional argument for a sentence. -/
def textRule : PositionalRule where
  key := "text"

/-- The arguments of the command that compiles a sentence. -/
def compileGrammar : Grammar where
  options :=
    [formatRule, setting "language" ["--language"], offlineRule, switch "quiet" ["--quiet", "-q"],
      setting "out" ["--out", "-o"]]
  positional := some textRule

/-- The arguments of the command that shows phases. -/
def phasesGrammar : Grammar where
  options :=
    [offlineRule,
      { key := "only"
        spellings := ["--only"]
        arity := .several
        choices := some StandardPhase.pipeline }]
  positional := some textRule

/-- The arguments of the command that compiles the lines of the input. -/
def converseGrammar : Grammar where
  options := [offlineRule]

/-- The arguments of the command that lists phases: none. -/
def layersGrammar : Grammar where
  options := []

/-- The arguments of the command that compiles on a server. -/
def remoteCompileGrammar : Grammar where
  options := [formatRule, setting "session" ["--session"]]
  positional := some textRule

/-- The arguments of the commands for a session of a server. -/
def sessionGrammar : Grammar where
  options := []
  positional := some { key := "session_id" }

/-- The arguments of the commands for a server. -/
def remoteGrammar : Grammar where
  options := []
  positional := some {
    key := "remote_command"
    isCommand := true
    choices := some ["compile", "session", "forget"] }

/-- The arguments before a command. -/
def mainGrammar : Grammar where
  options := [switch "debug" ["--debug"], setting "log_file" ["--log-file"]]
  positional := some {
    key := "command"
    isCommand := true
    choices := some ["compile", "phases", "repl", "remote", "layers"]
    required := false }

/-- The reading of the arguments of a last command; nothing may be left over. -/
def readAll (grammar : Grammar) (arguments : List String) : Except Refusal Reading := do
  let reading ← grammar.read arguments
  if reading.leftover then .error .usage else return reading

/-- The text that a command needs. -/
def Reading.text (reading : Reading) (key : String) : String :=
  (reading.value? key).getD ""

/-- The command of arguments for a server. -/
def readRemote (arguments : List String) : Except Refusal Command := do
  let outer ← remoteGrammar.read arguments
  let command ←
    match outer.command with
    | some ("compile", rest) => do
        let reading ← readAll remoteCompileGrammar rest
        pure (.remoteCompile (reading.text "text") ((reading.value? "format").getD "json")
          (reading.value? "session"))
    | some ("session", rest) => do
        let reading ← readAll sessionGrammar rest
        pure (.remoteSession (reading.text "session_id"))
    | some ("forget", rest) => do
        let reading ← readAll sessionGrammar rest
        pure (.remoteForget (reading.text "session_id"))
    | _ => .error .usage
  if outer.leftover then .error .usage else return command

def readCommand (name : String) (arguments : List String) : Except Refusal Command :=
  match name with
  | "compile" => do
      let reading ← readAll compileGrammar arguments
      return .compile (reading.text "text") ((reading.value? "format").getD "json")
        ((reading.value? "language").getD "en") (reading.has "offline") (reading.has "quiet")
        (reading.value? "out")
  | "phases" => do
      let reading ← readAll phasesGrammar arguments
      return .phases (reading.text "text") (reading.has "offline") (reading.values? "only")
  | "repl" => do
      let reading ← readAll converseGrammar arguments
      return .converse (reading.has "offline")
  | "remote" => readRemote arguments
  | "layers" => do
      let _ ← readAll layersGrammar arguments
      return .layers
  | _ => .error .usage

def readInvocation (arguments : List String) : Except Refusal Invocation := do
  let outer ← mainGrammar.read arguments
  let command ←
    match outer.command with
    | none => pure none
    | some (name, rest) => do pure (some (← readCommand name rest))
  if outer.leftover then .error .usage
  else
    return {
      debug := outer.has "debug"
      logFile := outer.value? "log_file"
      command }

end SentenceGraph.CommandLine
