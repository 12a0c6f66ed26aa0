/-!
# Command-line arguments

A grammar of a command lists its options, at most one positional argument, and possibly commands
below it. Options may be abbreviated as long as they stay unique, take their value after an equals
sign or as the next argument, and single-letter options may be run together. After two dashes
everything is positional.
-/

namespace SentenceGraph.CommandLine

/-- How many values an option takes. -/
inductive Arity where
  | none
  | one
  | several
deriving DecidableEq, Repr

/-- An option: the key of its values, its spellings, and the values it accepts, if not any. -/
structure OptionRule where
  key : String
  spellings : List String
  arity : Arity
  choices : Option (List String) := .none

structure PositionalRule where
  key : String
  /-- Whether the argument names a command that takes all further arguments. -/
  isCommand : Bool := false
  choices : Option (List String) := .none
  required : Bool := true

/-- The grammar of the arguments of a command. Every command has an option for help. -/
structure Grammar where
  options : List OptionRule
  positional : Option PositionalRule := .none

/-- The option that asks for help. -/
def helpRule : OptionRule where
  key := "help"
  spellings := ["-h", "--help"]
  arity := .none

/-- What an argument looks like. -/
inductive Shape where
  /-- Not an option. -/
  | word
  /-- The two dashes after which everything is a word. -/
  | separator
  /-- An option in one of its spellings, with the value that is written in the same argument. -/
  | option (rule : OptionRule) (spelling : String) (value : Option String)
  /-- An option that the grammar does not know. -/
  | unknownOption

/-- An argument with its shape. -/
structure Argument where
  text : String
  shape : Shape

/-- Why arguments are not run as a command. -/
inductive Refusal where
  | help
  | usage
deriving DecidableEq, Repr

/-- What was read from arguments. -/
structure Reading where
  values : List (String × List String) := []
  /-- A command with all the arguments after it. -/
  command : Option (String × List String) := .none
  /-- Whether the positional argument is still missing. -/
  isOpen : Bool := true
  /-- Whether an argument was left that belongs nowhere. -/
  leftover : Bool := false

namespace Reading

/-- The last value of a key. -/
def value? (reading : Reading) (key : String) : Option String :=
  (reading.values.lookup key).bind List.head?

def values? (reading : Reading) (key : String) : Option (List String) :=
  reading.values.lookup key

/-- Whether an option was given. -/
def has (reading : Reading) (key : String) : Bool :=
  (reading.values.lookup key).isSome

end Reading

/-- The rules of a grammar, with the one for help. -/
def Grammar.rules (grammar : Grammar) : List OptionRule :=
  helpRule :: grammar.options

/-- Every spelling with its rule. -/
def Grammar.spellings (grammar : Grammar) : List (String × OptionRule) :=
  grammar.rules.flatMap fun rule => rule.spellings.map fun spelling => (spelling, rule)

/-- What stands before and after the first equals sign. -/
def splitAtEquals? (characters : List Char) : Option (String × String) :=
  if characters.contains '=' then
    some (String.ofList (characters.takeWhile (· != '=')),
      String.ofList ((characters.dropWhile (· != '=')).drop 1))
  else none

def isNegativeNumber : List Char → Bool
  | '-' :: rest =>
      let whole := rest.takeWhile Char.isDigit
      match rest.dropWhile Char.isDigit with
      | [] => !whole.isEmpty
      | '.' :: fraction => !fraction.isEmpty && fraction.all Char.isDigit
      | _ => false
  | _ => false

/-- The options that an argument may abbreviate, with the value written in it. -/
def Grammar.abbreviated (grammar : Grammar) (characters : List Char) : List Shape :=
  match characters with
  | '-' :: '-' :: _ =>
      let (beginning, value) :=
        match splitAtEquals? characters with
        | some (name, value) => (name.toList, some value)
        | none => (characters, none)
      grammar.spellings.filterMap fun (spelling, rule) =>
        if beginning.isPrefixOf spelling.toList then some (.option rule spelling value) else none
  | '-' :: letter :: rest =>
      grammar.spellings.filterMap fun (spelling, rule) =>
        if spelling.toList == ['-', letter] then
          some (.option rule spelling (some (String.ofList rest)))
        else none
  | _ => []

/-- The shape of an argument before the two dashes; none if it abbreviates several options. -/
def Grammar.shapeOf? (grammar : Grammar) (argument : String) : Option Shape :=
  let characters := argument.toList
  if characters.head? != some '-' || characters.length == 1 then some .word
  else if argument == "--" then some .separator
  else
    match grammar.spellings.find? (·.1 == argument) with
    | some (spelling, rule) => some (.option rule spelling none)
    | none =>
        let assigned := do
          let (name, value) ← splitAtEquals? characters
          let (spelling, rule) ← grammar.spellings.find? (·.1 == name)
          return Shape.option rule spelling (some value)
        match assigned with
        | some shape => some shape
        | none =>
            match grammar.abbreviated characters with
            | [shape] => some shape
            | _ :: _ :: _ => none
            | [] =>
                if isNegativeNumber characters || characters.contains ' ' then some .word
                else some .unknownOption

/-- The arguments with their shapes. -/
def Grammar.shapes (grammar : Grammar) : List String → Except Refusal (List Argument)
  | [] => .ok []
  | argument :: rest => do
      match grammar.shapeOf? argument with
      | none => .error .usage
      | some .separator => return ⟨argument, .separator⟩ :: rest.map (⟨·, .word⟩)
      | some shape => return ⟨argument, shape⟩ :: (← grammar.shapes rest)

def Argument.isWord (argument : Argument) : Bool :=
  match argument.shape with
  | .word => true
  | _ => false

/-- Whether an argument is an option, known or not. -/
def Argument.isOption (argument : Argument) : Bool :=
  match argument.shape with
  | .option .. | .unknownOption => true
  | _ => false

/-- Whether an argument is the two dashes. -/
def Argument.isSeparator (argument : Argument) : Bool :=
  match argument.shape with
  | .separator => true
  | _ => false

/-- Accepts values of an option or of the positional argument. -/
def accept (reading : Reading) (key : String) (choices : Option (List String))
    (values : List String) : Except Refusal Reading :=
  if choices.any fun allowed => !values.all allowed.contains then .error .usage
  else .ok { reading with values := (key, values) :: reading.values }

/-- Carries options out in order; the one for help ends the reading. -/
def carryOut (reading : Reading) : List (OptionRule × List String) → Except Refusal Reading
  | [] => .ok reading
  | (rule, values) :: rest =>
      if rule.key == helpRule.key then .error .help
      else do carryOut (← accept reading rule.key rule.choices values) rest

/-- The options in an argument of single letters that were run together: the letters after the first
one, where the last option may have a value. -/
def Grammar.runTogether (grammar : Grammar) : (letters : List Char) →
    Except Refusal (List (OptionRule × List String) × Option OptionRule)
  | [] => .ok ([], none)
  | letter :: rest =>
      match grammar.spellings.find? (·.1 == String.ofList ['-', letter]) with
      | none => .error .usage
      | some (_, rule) =>
          match rule.arity, rest with
          | .none, _ => do
              let (later, waiting) ← grammar.runTogether rest
              return ((rule, []) :: later, waiting)
          | _, [] => .ok ([], some rule)
          | _, _ => .ok ([(rule, [String.ofList rest])], none)

/-- The values that an option takes from the arguments after it, and how many these are. -/
def valuesAfter (rule : OptionRule) (arguments : List Argument) :
    Except Refusal (List String × Nat) :=
  let words := (arguments.takeWhile Argument.isWord).map Argument.text
  match rule.arity, words with
  | .none, _ => .ok ([], 0)
  | .one, first :: _ => .ok ([first], 1)
  | .several, _ :: _ => .ok (words, words.length)
  | _, [] => .error .usage

/-- Reads an option; the result says how many of the arguments after it were taken. -/
def Grammar.readOption (grammar : Grammar) (reading : Reading) (rule : OptionRule)
    (spelling : String) (value : Option String) (arguments : List Argument) :
    Except Refusal (Reading × Nat) :=
  match value with
  | none => do
      let (values, taken) ← valuesAfter rule arguments
      return (← carryOut reading [(rule, values)], taken)
  | some value =>
      match rule.arity with
      | .none => do
          let isShort := !(['-', '-'].isPrefixOf spelling.toList)
          if isShort && value != "" then
            let (actions, waiting) ← grammar.runTogether value.toList
            match waiting with
            | none => return (← carryOut reading ((rule, []) :: actions), 0)
            | some last =>
                let (values, taken) ← valuesAfter last arguments
                return (← carryOut reading ((rule, []) :: actions ++ [(last, values)]), taken)
          else .error .usage
      | _ => do return (← carryOut reading [(rule, [value])], 0)

/-- Takes the positional argument, if it is open and a word comes next; the result says how many
arguments were taken. -/
def Grammar.readPositional (grammar : Grammar) (reading : Reading) (arguments : List Argument) :
    Except Refusal (Reading × Nat) :=
  match grammar.positional, reading.isOpen with
  | some rule, true =>
      let dashes := (arguments.takeWhile Argument.isSeparator).length
      match arguments.drop dashes with
      | ⟨word, .word⟩ :: rest =>
          if rule.isCommand then
            let name := if dashes == 0 then word else "--"
            if rule.choices.any fun allowed => !allowed.contains name then .error .usage
            else
              .ok ({ reading with
                  command := some (name, rest.map Argument.text)
                  isOpen := false },
                arguments.length)
          else do
            let read ← accept reading rule.key rule.choices [word]
            let dashesAfter := (rest.takeWhile Argument.isSeparator).length
            return ({ read with isOpen := false }, dashes + 1 + dashesAfter)
      | _ => .ok (reading, 0)
  | _, _ => .ok (reading, 0)

/-- Reads shaped arguments; `steps` bounds their number. -/
def Grammar.readShaped (grammar : Grammar) (reading : Reading) :
    (steps : Nat) → List Argument → Except Refusal Reading
  | 0, _ => .ok reading
  | steps + 1, arguments =>
      match arguments with
      | [] => .ok reading
      | argument :: rest =>
          match argument.shape with
          | .option rule spelling value => do
              let (read, taken) ← grammar.readOption reading rule spelling value rest
              grammar.readShaped read steps (rest.drop taken)
          | .unknownOption => grammar.readShaped { reading with leftover := true } steps rest
          | _ => do
              let (read, taken) ← grammar.readPositional reading arguments
              if taken == 0 then
                grammar.readShaped { read with leftover := true } steps
                  (arguments.dropWhile fun argument => !argument.isOption)
              else grammar.readShaped read steps (arguments.drop taken)

/-- Reads the arguments of a command. A command below it keeps its arguments for itself, so that
what is left over here is told by the reading. -/
def Grammar.read (grammar : Grammar) (arguments : List String) : Except Refusal Reading := do
  let shaped ← grammar.shapes arguments
  let reading ← grammar.readShaped {} (shaped.length + 1) shaped
  if reading.isOpen && grammar.positional.any PositionalRule.required then .error .usage
  else return reading

end SentenceGraph.CommandLine
