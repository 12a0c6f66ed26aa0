import SentenceGraph.Compiler
import SentenceGraph.Session.Store
import SentenceGraph.Text.Split

/-!
# The server

The server compiles sentences for many users. A request to compile names a session, or gets a new
one; the session is loaded from the store, used and saved again. Other requests show or forget a
session, list the phases, or ask for the name of the server.
-/

namespace SentenceGraph

/-- A request to the server. The body is there only if it is JSON and said to be. -/
structure ServerRequest (R : Type) where
  method : String
  path : String
  body : Option (Value R) := none

/-- An answer of the server. -/
structure ServerResponse (R : Type) where
  status : Nat
  body : Value R

/-- A server: its compiler and its sessions. -/
structure Server (R : Type) where
  compiler : Compiler R
  store : SessionStore R

/-- What a request asks for, apart from the method. -/
inductive Route where
  | name
  | phases
  | compilation
  | session (id : String)
deriving DecidableEq, Repr

/-- A request to compile. -/
structure CompileBody where
  request : Request
  sessionId : Option String

variable {R : Type}

namespace Route

/-- The route of a path, from its segments; the first one stands before the first slash. -/
def ofSegments : List String → Option Route
  | ["", "api", "layers"] => some phases
  | ["", "api", "compile"] => some compilation
  | ["", "api", "sessions", id] => some (session id)
  | _ => none

/-- The route of a path. Trailing slashes do not count, but for the path that is a single one. -/
def ofPath (path : String) : Option Route :=
  if path == "/" || path == "" then some name
  else ofSegments (Text.split '/' (Text.dropTrailingSlashes path))

/-- The methods that a route allows. -/
def methods : Route → List String
  | name => ["GET"]
  | phases => ["GET"]
  | compilation => ["POST"]
  | session _ => ["GET", "DELETE"]

end Route

namespace CompileBody

/-- A member that is a text, or the default if it is missing. -/
def textMember? (members : List (String × Value R)) (key default : String) : Option String :=
  match Value.member? members key with
  | none => some default
  | some (.text content) => some content
  | some _ => none

/-- The request that a body makes: it needs a text; format and language are texts if they are there,
and the session may be null. -/
def ofValue? : Value R → Option CompileBody
  | .object members => do
      let text ←
        match Value.member? members "text" with
        | some (.text content) => some content
        | _ => none
      let format ← textMember? members "format" "json"
      let language ← textMember? members "language" "en"
      let sessionId ←
        match Value.member? members "session_id" with
        | none | some .null => some none
        | some (.text id) => some (some id)
        | some _ => none
      return { request := { text, format := some format, language }, sessionId }
  | _ => none

end CompileBody

namespace ServerResponse

/-- An answer that only explains its status. -/
def detail (status : Nat) (explanation : String) : ServerResponse R where
  status
  body := .object [("detail", .text explanation)]

/-- The answer to a path that leads nowhere. -/
def notFound : ServerResponse R := detail 404 "Not Found"

/-- The answer to a method that the route does not allow. -/
def methodNotAllowed : ServerResponse R := detail 405 "Method Not Allowed"

/-- The answer to a request about a session that is not stored. -/
def sessionNotFound : ServerResponse R := detail 404 "Session not found"

/-- The answer to a body that is no request to compile. -/
def unprocessable : ServerResponse R where
  status := 422
  body := .null

/-- The answer to a request that was served. -/
def ok (members : List (String × Value R)) : ServerResponse R where
  status := 200
  body := .object members

end ServerResponse

namespace Server

/-- The list of the phases of the pipeline. -/
def phaseList (registry : Registry (Artifact R) (Surroundings R)) :
    Except Fault (List (Value R)) :=
  StandardPhase.pipeline.zipIdx.mapM fun (id, index) => do
    let phase ← registry.get id
    return .object
      [("phase", .ofNat (index + 1)), ("id", .text id), ("name", .text phase.name),
        ("ext", .text phase.extension), ("depends_on", .ofTexts phase.dependsOn)]

variable [Quantity R]

def showSession (server : Server R) (id : String) : Except Fault (ServerResponse R) := do
  if server.store.contains id then
    let session ← server.store.get id
    return .ok (("id", .text id) :: session.toMembers)
  else return .sessionNotFound

omit [Quantity R] in
def forgetSession (server : Server R) (id : String) : Server R × ServerResponse R :=
  if server.store.contains id then
    ({ server with store := server.store.erase id }, .ok [("success", .bool true)])
  else (server, .sessionNotFound)

/-- The session that a request to compile uses: a new one if it names none. -/
def sessionIdOf (body : CompileBody) (freshId : String) : String :=
  match body.sessionId with
  | none | some "" => freshId
  | some id => id

/-- A compilation in a stored session. -/
structure Answer (R : Type) where
  sessionId : String
  compilation : Compilation R

/-- Compiles a sentence in a stored session. -/
def compile (server : Server R) (body : CompileBody) (clock : Clock R) (freshId : String) :
    Except Fault (Server R × Answer R) := do
  let sessionId := sessionIdOf body freshId
  let session ← server.store.get sessionId
  let call := server.compiler.compile body.request session clock
  let compilation ← call.answer
  return ({ server with store := server.store.save sessionId call.session },
    { sessionId, compilation })

omit [Quantity R] in
/-- The response that shows a compilation. -/
def Answer.response (answer : Answer R) : ServerResponse R :=
  .ok (answer.compilation.toMembers ++ [("session_id", .text answer.sessionId)])

def serve (server : Server R) (request : ServerRequest R) (clock : Clock R) (freshId : String) :
    Except Fault (Server R × ServerResponse R) :=
  match Route.ofPath (Address.requestPath request.path) with
  | none => .ok (server, .notFound)
  | some route =>
      if route.methods.contains request.method then
        match route with
        | .name =>
            .ok (server,
              .ok [("name", .text "nlcompiler API"), ("version", .text compilerVersion)])
        | .phases => do
            let phases ← phaseList server.compiler.registry
            return (server, .ok [("layers", .list phases)])
        | .session id =>
            if request.method == "DELETE" then .ok (server.forgetSession id)
            else do return (server, ← server.showSession id)
        | .compilation =>
            match request.body.bind CompileBody.ofValue? with
            | none => .ok (server, .unprocessable)
            | some body => do
                let (after, answer) ← server.compile body clock freshId
                return (after, answer.response)
      else .ok (server, .methodNotAllowed)

end Server

end SentenceGraph
