import SentenceGraph.Address
import SentenceGraph.Decimal.Numeral
import SentenceGraph.Text.Affix
import SentenceGraph.Text.Blank
import SentenceGraph.Text.Lowercase
import SentenceGraph.Text.Quoted
import SentenceGraph.Text.Split

/-!
# Configuration

The settings of the compiler, and how they are read from the environment.
-/

namespace SentenceGraph

/-- Names with their values. -/
abbrev Environment := List (String × String)

/-- The settings of the compiler. -/
structure Config (R : Type) where
  dictionaryAddress : String := "https://api.dictionaryapi.dev/api/v2/entries/en"
  lookupTimeout : R
  offline : Bool := false
  memorySize : Int := 5
  storeHost : String := "localhost"
  storePort : Int := 6379
  storeIndex : Int := 0
  serverAddress : String := "http://localhost:8000/api"
  allowedOrigins : List String := ["http://localhost:3000", "http://localhost:5173"]
  debug : Bool := false

namespace Config

variable {R : Type} [Quantity R]

/-- The names of the settings in an environment. -/
def settingNames : List String :=
  ["NLC_DICTIONARY_URL", "NLC_LOOKUP_TIMEOUT", "NLC_OFFLINE", "NLC_MEMORY_SIZE", "NLC_REDIS_HOST",
    "NLC_REDIS_PORT", "NLC_REDIS_DB", "NLC_API_URL", "NLC_CORS_ORIGINS", "NLC_DEBUG"]

/-- The settings where nothing is set. -/
def standard : Config R where
  lookupTimeout := 5.0

omit [Quantity R] in
/-- The name of the dictionary in documents: the host, without a leading `api.`. -/
def dictionaryLabel (config : Config R) : String :=
  if config.offline then "fallback"
  else Text.dropBeginning (Address.host config.dictionaryAddress) "api." ++ " + fallback"

/-- A setting that is on or off; it is off unless it is one of the words for on. -/
def readSwitch (value : Option String) : Bool :=
  value.any fun text => ["1", "true", "yes", "on"].contains (Text.lowercase (Text.trim text))

/-- A setting that is a list: items between commas, without blanks around them and without empty
ones. -/
def readItems (value : Option String) (default : List String) : List String :=
  match value with
  | none | some "" => default
  | some text => ((Text.split ',' text).map Text.trim).filter (· != "")

/-- A setting that is an integer. -/
def readInteger (value : Option String) (default : Int) : Except Fault Int :=
  match value with
  | none => .ok default
  | some text =>
      match Decimal.readInteger? text with
      | some number => .ok number
      | none => .error (.notAnInteger (Text.quoted text))

/-- A setting that is a quantity. -/
def readQuantity (value : Option String) (default : R) : Except Fault R :=
  match value with
  | none => .ok default
  | some text =>
      match Decimal.readQuantity? text with
      | some quantity => .ok quantity
      | none => .error (.notANumber (Text.quoted text))

/-- The settings of an environment. The first setting that cannot be read is reported. -/
def ofEnvironment (environment : Environment) : Except Fault (Config R) := do
  let setting (name : String) := environment.lookup name
  let base : Config R := standard
  let lookupTimeout ← readQuantity (setting "NLC_LOOKUP_TIMEOUT") base.lookupTimeout
  let memorySize ← readInteger (setting "NLC_MEMORY_SIZE") base.memorySize
  let storePort ← readInteger (setting "NLC_REDIS_PORT") base.storePort
  let storeIndex ← readInteger (setting "NLC_REDIS_DB") base.storeIndex
  return {
    dictionaryAddress :=
      Text.dropTrailingSlashes ((setting "NLC_DICTIONARY_URL").getD base.dictionaryAddress)
    lookupTimeout
    offline := readSwitch (setting "NLC_OFFLINE")
    memorySize
    storeHost := (setting "NLC_REDIS_HOST").getD base.storeHost
    storePort
    storeIndex
    serverAddress := Text.dropTrailingSlashes ((setting "NLC_API_URL").getD base.serverAddress)
    allowedOrigins := readItems (setting "NLC_CORS_ORIGINS") base.allowedOrigins
    debug := readSwitch (setting "NLC_DEBUG") }

omit [Quantity R] in
/-- The document form of the settings, with the name of the dictionary. -/
def toValue (config : Config R) : Value R :=
  .object
    [("dictionary_url", .text config.dictionaryAddress),
      ("lookup_timeout", .real config.lookupTimeout), ("offline", .bool config.offline),
      ("memory_size", .int config.memorySize), ("redis_host", .text config.storeHost),
      ("redis_port", .int config.storePort), ("redis_db", .int config.storeIndex),
      ("api_url", .text config.serverAddress), ("cors_origins", .ofTexts config.allowedOrigins),
      ("debug", .bool config.debug), ("dictionary_label", .text config.dictionaryLabel)]

end Config

end SentenceGraph
