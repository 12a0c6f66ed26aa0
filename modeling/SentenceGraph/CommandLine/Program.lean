import SentenceGraph.CommandLine.Command
import SentenceGraph.CommandLine.Conversation
import SentenceGraph.Server

/-!
# Running commands

A command line is run in a world that holds everything around it: the environment, the dictionary
service, the registered phases, the server that it talks to, the clock, and the input. The outcome
is the effect of the command and the server afterwards.
-/

namespace SentenceGraph.CommandLine

/-- What surrounds a command. -/
structure World (R : Type) where
  environment : Environment := []
  service : Service R
  registry : Registry (Artifact R) (Surroundings R)
  server : Server R
  serverAddress : String := "http://localhost:8000/api"
  clock : Clock R
  /-- The id of a new session on the server. -/
  freshId : String
  input : String := ""
  /-- What stands in the way of writing to a path. -/
  fileFault : String → Option Fault := emptyDirectoryFault

variable {R : Type} [Quantity R]

/-- Writes a file, unless something stands in the way. -/
def World.writeFile (world : World R) (effect : Effect) (path content : String) : Effect :=
  match world.fileFault path with
  | some fault => effect.fail fault
  | none => effect.writeFile path content

def World.compiler (world : World R) (offline : Bool) : Except Fault (Compiler R) := do
  let config ← Config.ofEnvironment world.environment
  return {
    config := { config with offline := config.offline || offline }
    service := world.service
    registry := world.registry }

/-- The remark on an event of a compilation. -/
def eventNote (effect : Effect) (event : PhaseStatus) : Effect :=
  match event.status with
  | .complete => effect.note ("✓ " ++ event.id ++ ": " ++ event.details)
  | .failed => effect.note ("✗ " ++ event.id ++ ": " ++ event.details)
  | _ => effect

/-- Compiles a sentence and shows or writes its document. -/
def runCompile (world : World R) (request : Request) (offline quiet : Bool) (out : Option String)
    (effect : Effect) : Effect :=
  match do (← world.compiler offline).compileAlone request world.clock with
  | .error fault => effect.fail fault
  | .ok call =>
      let noted := if quiet then effect else call.events.foldl eventNote effect
      match call.answer with
      | .error fault => noted.fail fault
      | .ok compilation =>
          match compilation.error, compilation.output with
          | some message, _ => noted.reportError message
          | none, none => noted
          | none, some output =>
              match out with
              | none | some "" => noted.say output.text
              | some path =>
                  let written := world.writeFile noted path output.text
                  if written.fault.isSome then written else written.note ("✓ Wrote " ++ path)

/-- Shows the result of a phase. -/
def showPhase (registry : Registry (Artifact R) (Surroundings R)) (compilation : Compilation R)
    (effect : Effect) (id : String) : Effect :=
  let extension := ((registry.find? id).map Phase.extension).getD ""
  let headed := effect.say ("=== " ++ id ++ extension ++ " ===")
  let shown :=
    match compilation.results.lookup id with
    | none => headed.say "# not run"
    | some result =>
        let summed := headed.say ("# " ++ result.message)
        if result.success then summed.say ((result.data.map Artifact.view).getD "") else summed
  shown.say ""

/-- Compiles a sentence and shows the results of its phases. -/
def runPhases (world : World R) (text : String) (offline : Bool) (only : Option (List String))
    (effect : Effect) : Effect :=
  let answer := do
    let call ← (← world.compiler offline).compileAlone { text } world.clock
    call.answer
  match answer with
  | .error fault => effect.fail fault
  | .ok compilation =>
      let ids := only.getD StandardPhase.pipeline
      let shown := ids.foldl (showPhase world.registry compilation) effect
      match compilation.error with
      | some message => shown.reportError message
      | none => shown

/-- Begins a conversation, after the effects so far. -/
def World.conversation (world : World R) (offline : Bool) (effect : Effect) :
    Except Fault (Conversation R) := do
  let conversation ← Conversation.start (← world.compiler offline)
  return { conversation with
    effect := { effect with output := effect.output ++ conversation.effect.output } }

/-- Compiles the lines of the input in one session. -/
def runConversation (world : World R) (offline : Bool) (effect : Effect) : Effect :=
  match world.conversation offline effect with
  | .error fault => effect.fail fault
  | .ok conversation => conversation.run world.clock (inputLines world.input)

/-- Lists the phases of the pipeline. -/
def runLayers (world : World R) (effect : Effect) : Effect :=
  let describe (effect : Effect) (entry : String × Nat) : Effect :=
    if effect.fault.isSome then effect
    else
      match world.registry.get entry.1 with
      | .error fault => effect.fail fault
      | .ok phase =>
          let needed :=
            if phase.dependsOn.isEmpty then "(none)" else ", ".intercalate phase.dependsOn
          (((effect.say ("  " ++ Decimal.naturalText (entry.2 + 1) ++ ". " ++ entry.1 ++ " - " ++
            phase.name)).say ("    ext: " ++ phase.extension)).say
            ("    depends_on: " ++ needed)).say ""
  StandardPhase.pipeline.zipIdx.foldl describe ((effect.say "Compiler phases:").say "")

/-- The name of an HTTP status. -/
def statusName (status : Nat) : String :=
  if status == 404 then "404 Not Found"
  else if status == 405 then "405 Method Not Allowed"
  else Decimal.naturalText status

/-- The report on an answer of a server that is not a success. -/
def clientError (status : Nat) (address : String) : String :=
  "Client error '" ++ statusName status ++ "' for url '" ++ address ++
    "'\nFor more information check: https://developer.mozilla.org/en-US/docs/Web/HTTP/Status/" ++
    Decimal.naturalText status

/-- Compiles a sentence on the server. -/
def runRemoteCompile (world : World R) (request : Request) (session : Option String)
    (effect : Effect) : Server R × Effect :=
  match world.server.compile { request, sessionId := session } world.clock world.freshId with
  | .error fault => (world.server, effect.reportError fault.message)
  | .ok (server, answer) =>
      let phaseLine (effect : Effect) (phase : PhaseStatus) : Effect :=
        let mark := if phase.status == .complete then "✓ " else "✗ "
        effect.warn (mark ++ phase.id ++ ": " ++ phase.details)
      let noted :=
        (answer.compilation.phases.foldl phaseLine effect).warn ("session: " ++ answer.sessionId)
      match answer.compilation.error, answer.compilation.output with
      | some message, _ => (server, noted.reportError message)
      | none, some output => (server, noted.say output.text)
      | none, none => (server, noted)

/-- Sends a request about a session to the server, and goes on with the body of the answer. -/
def runSessionRequest (world : World R) (method id : String) (effect : Effect)
    (proceed : Effect → Value R → Effect) : Server R × Effect :=
  let target := "/sessions/" ++ Address.encode id
  match
    world.server.serve { method, path := "/api" ++ target } world.clock world.freshId with
  | .error fault => (world.server, effect.reportError fault.message)
  | .ok (server, response) =>
      if response.status == 200 then (server, proceed effect response.body)
      else (server, effect.reportError (clientError response.status (world.serverAddress ++ target)))

def runCommand (world : World R) (effect : Effect) : Command → Server R × Effect
  | .compile text format language offline quiet out =>
      (world.server,
        runCompile world { text, format := some format, language } offline quiet out effect)
  | .phases text offline only => (world.server, runPhases world text offline only effect)
  | .converse offline => (world.server, runConversation world offline effect)
  | .layers => (world.server, runLayers world effect)
  | .remoteCompile text format session =>
      runRemoteCompile world { text, format := some format } session effect
  | .remoteSession id =>
      runSessionRequest world "GET" id effect fun effect body =>
        effect.say (Json.print .document body)
  | .remoteForget id =>
      runSessionRequest world "DELETE" id effect fun effect _ =>
        effect.say ("✓ Deleted session " ++ id)

/-- Opens the log file of an invocation, if it names one. -/
def openLog (world : World R) (logFile : Option String) : Effect :=
  match logFile with
  | none | some "" => {}
  | some path => world.writeFile {} path ""

def run (world : World R) (arguments : List String) : Server R × Effect :=
  match readInvocation arguments with
  | .error .help => (world.server, { showsUsage := true })
  | .error .usage => (world.server, { exitCode := 2 })
  | .ok invocation =>
      let opened := openLog world invocation.logFile
      if opened.fault.isSome then (world.server, opened)
      else
        match invocation.command with
        | none => (world.server, { opened with showsUsage := true })
        | some command => runCommand world opened command

end SentenceGraph.CommandLine
