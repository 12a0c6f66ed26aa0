import SentenceGraph.Address
import SentenceGraph.Dictionary.FunctionWords
import SentenceGraph.Dictionary.Payload
import SentenceGraph.Json.Bytes
import SentenceGraph.Text.Affix

/-!
# Looking words up

A resolver asks a dictionary service for each word. Where the service gives no entry, the function
words are the fallback, and a word that is none of them has no entry. Offline, only the function
words are consulted.
-/

namespace SentenceGraph

/-- The body of a reply. -/
inductive Body (R : Type) where
  /-- A body that encodes this value. -/
  | encoded (value : Value R)
  /-- Any other body. -/
  | octets (octets : List UInt8)

/-- The value of a JSON body. -/
def Body.value? {R : Type} [Quantity R] : Body R → Option (Value R)
  | .encoded value => some value
  | .octets content => Json.readBody? content

/-- What comes back from a dictionary service. -/
inductive Reply (R : Type) where
  /-- A status and a body. -/
  | answered (status : Int) (body : Body R)
  /-- Nothing, because of the connection. -/
  | unreachable (reason : String)
  /-- The connection broke down in a way that is not part of its contract. -/
  | crashed (message : String)

/-- The reply to a word that the service does not know. -/
def Reply.notFound {R : Type} : Reply R := .answered 404 (.octets [])

def Reply.entry {R : Type} [Quantity R] : Reply R → Except Fault (Entry R)
  | .crashed message => .error (.crashed message)
  | .unreachable reason => .error (.lookupFailed (.unreachable reason))
  | .answered status body =>
      if status == 200 then
        match body.value? with
        | some payload => Entry.ofPayload payload
        | none => .error (.lookupFailed .invalidBody)
      else .error (.lookupFailed (.status status))

/-- A dictionary service: its reply to the path of each request. -/
abbrev Service (R : Type) := String → Reply R

/-- The service that knows the words of a table; a request names its word in the last segment. -/
def Service.ofTable {R : Type} (table : List (String × Reply R)) : Service R := fun path =>
  (table.lookup (Address.lastSegment path)).getD .notFound

/-- Where words are looked up. -/
structure Resolver (R : Type) where
  /-- The address below which each word has its entry. -/
  address : String
  /-- Whether the service is left alone. -/
  offline : Bool
  /-- The service at the address. -/
  service : Service R

namespace Resolver

variable {R : Type} [Quantity R]

def requestPath (resolver : Resolver R) (word : String) : String :=
  Address.path (Text.dropTrailingSlashes resolver.address ++ "/" ++ Text.lowercase word)

/-- The paths that are requested for a list of words. -/
def requestPaths (resolver : Resolver R) (words : List String) : List String :=
  if resolver.offline then [] else words.map resolver.requestPath

/-- The entry of a word, if there is one. Only a fault that is no failed lookup comes through. -/
def lookup (resolver : Resolver R) (word : String) : Except Fault (Option (Entry R)) :=
  if resolver.offline then .ok (Entry.ofFunctionWord? word)
  else
    match (resolver.service (resolver.requestPath word)).entry with
    | .ok entry => .ok (some entry)
    | .error (.lookupFailed _) => .ok (Entry.ofFunctionWord? word)
    | .error fault => .error fault

/-- The entries of words, in order; the first fault decides. -/
def resolve (resolver : Resolver R) (words : List String) :
    Except Fault (List (Option (Entry R))) :=
  words.mapM resolver.lookup

end Resolver

end SentenceGraph
