import SentenceGraph.CommandLine.Program
import SentenceGraph.CommandLine.Usage
import SentenceGraph.Timestamp
import Std.Time.DateTime.Timestamp

/-!
# The program

The command line as a program: it gathers the world of a command, runs the command in it, and
carries its effects out. The program has no connection to a dictionary service, so that the function
words are its dictionary, and it talks to a server of its own that lasts as long as the program.
-/

namespace SentenceGraph.CommandLine

/-- The settings in the environment of the process. -/
def readEnvironment : IO Environment := do
  let mut environment := []
  for name in Config.settingNames do
    if let some value ← IO.getEnv name then
      environment := environment ++ [(name, value)]
  return environment

/-- The clocks. A sentence is compiled in less time than they can tell, so that one reading serves
for the beginning, the writing and the end. -/
def readClock : IO (Clock Float) := do
  let nanoseconds := (← Std.Time.Timestamp.now).toNanosecondsSinceUnixEpoch.val
  let reading := Float.ofNat (← IO.monoNanosNow) / 1.0e9
  return {
    started := reading
    writing := reading
    finished := reading
    now := Float.ofInt nanoseconds / 1.0e9
    timestamp := Timestamp.text ⟨nanoseconds / 1000⟩ }

/-- An id for a new session. -/
def drawSessionId : IO String := do
  let octets ← IO.getRandomBytes 6
  return String.ofList (octets.toList.flatMap fun octet => Text.hexDigits 2 octet.toNat)

def gatherWorld : IO (World Float) := do
  let environment ← readEnvironment
  let config := (Config.ofEnvironment environment).toOption.getD .standard
  let service : Service Float := fun _ => .unreachable "no connection"
  let registry : Registry (Artifact Float) (Surroundings Float) := StandardPhase.all
  return {
    environment
    service
    registry
    server := {
      compiler := { config, service, registry }
      store := { capacity := config.memorySize } }
    serverAddress := config.serverAddress
    clock := ← readClock
    freshId := ← drawSessionId
    fileFault := fun _ => none }

/-- Carries effects out; the result is the exit code. A file without contents is only opened, so
that an earlier log is kept. -/
def Effect.carryOut (effect : Effect) : IO UInt32 := do
  for (path, content) in effect.files do
    IO.FS.withFile path (if content == "" then .append else .write) fun handle =>
      handle.putStr content
  let output ← IO.getStdout
  let errors ← IO.getStderr
  errors.putStr (effect.notes ++ effect.errors)
  output.putStr effect.output
  if effect.showsUsage then usageLines.forM output.putStrLn
  if effect.exitCode == 2 then usageLines.forM errors.putStrLn
  output.flush
  match effect.fault with
  | none => return UInt32.ofNat effect.exitCode
  | some fault =>
      errors.putStrLn fault.message
      return 1

/-- Goes through the lines that are typed, each of which is answered before the next is read. -/
partial def Conversation.hold (conversation : Conversation Float) : IO UInt32 := do
  let _ ← conversation.effect.carryOut
  let line ← (← IO.getStdin).getLine
  let typed := if line.isEmpty then none else some line
  match { conversation with effect := {} }.turn (← readClock) typed with
  | .goesOn after => after.hold
  | .ends effect => effect.carryOut

/-- Runs a command line; the result is the exit code. -/
def runProgram (arguments : List String) : IO UInt32 := do
  let world ← gatherWorld
  match readInvocation arguments with
  | .ok { command := some (.converse offline), logFile, .. } =>
      match world.conversation offline (openLog world logFile) with
      | .ok conversation => conversation.hold
      | .error fault => ({} : Effect).fail fault |>.carryOut
  | _ => (run world arguments).2.carryOut

end SentenceGraph.CommandLine

/-- The program. -/
def main (arguments : List String) : IO UInt32 :=
  SentenceGraph.CommandLine.runProgram arguments
