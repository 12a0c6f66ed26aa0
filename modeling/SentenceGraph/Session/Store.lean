import SentenceGraph.Json.Bytes
import SentenceGraph.Session

/-!
# The session store

Sessions outlive a request in a key-value store. Each session has a key of its own. What the library
itself wrote is kept as the document that its JSON text encodes; texts from elsewhere are read when
they are asked for.
-/

namespace SentenceGraph

/-- What a key of the store holds. -/
inductive Stored (R : Type) where
  /-- The JSON text of a document. -/
  | document (value : Value R)
  /-- Any text. -/
  | text (content : String)

/-- The sessions of all users. -/
structure SessionStore (R : Type) where
  /-- The number of entries that a new session remembers. -/
  capacity : Int
  contents : List (String × Stored R) := []

namespace SessionStore

variable {R : Type}

def key (id : String) : String :=
  "nlc:session:" ++ id

/-- Whether a session is stored. -/
def contains (store : SessionStore R) (id : String) : Bool :=
  (store.contents.lookup (key id)).isSome

/-- Forgets a session. -/
def erase (store : SessionStore R) (id : String) : SessionStore R :=
  { store with contents := store.contents.filter (·.1 != key id) }

/-- Puts something under the key of a session. -/
def put (store : SessionStore R) (id : String) (stored : Stored R) : SessionStore R :=
  { store with contents := (store.erase id).contents ++ [(key id, stored)] }

def save (store : SessionStore R) (id : String) (session : Session R) : SessionStore R :=
  store.put id (.document session.toValue)

/-- The keys in use, in order. -/
def keys (store : SessionStore R) : List String :=
  (store.contents.map Prod.fst).mergeSort fun left right => decide (left ≤ right)

variable [Quantity R]

/-- A session without history, of the capacity of the store. -/
def freshSession (store : SessionStore R) : Except Fault (Session R) := do
  return Session.fresh (← Capacity.ofInt store.capacity)

/-- The session under a key; where there is none, or an empty text, a fresh one. -/
def get (store : SessionStore R) (id : String) : Except Fault (Session R) :=
  match store.contents.lookup (key id) with
  | none | some (.text "") => store.freshSession
  | some (.document value) => Session.ofValue value
  | some (.text content) =>
      match Json.readBody? content.toUTF8.toList with
      | some value => Session.ofValue value
      | none => .error .malformedJson

end SessionStore

end SentenceGraph
