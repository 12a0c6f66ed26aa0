import SentenceGraph.CommandLine.Command

/-!
# Usage

The text that explains the command line, put together from the grammars of the commands.
-/

namespace SentenceGraph.CommandLine

/-- What stands for the value of an option or of a positional argument. -/
def placeholder (key : String) (choices : Option (List String)) : String :=
  match choices with
  | none => String.ofList (key.toList.map Char.toUpper)
  | some allowed => "\x7b" ++ ",".intercalate allowed ++ "\x7d"

def OptionRule.usage (rule : OptionRule) : String :=
  let value := placeholder rule.key rule.choices
  let values :=
    match rule.arity with
    | .none => ""
    | .one => " " ++ value
    | .several => " " ++ value ++ " ..."
  "[" ++ rule.spellings.head?.getD "" ++ values ++ "]"

/-- The positional argument in a line of usage. -/
def PositionalRule.usage (rule : PositionalRule) : String :=
  placeholder rule.key rule.choices ++ if rule.isCommand then " ..." else ""

def Grammar.usage (grammar : Grammar) (command : String) : String :=
  " ".intercalate
    (command :: grammar.rules.map OptionRule.usage ++
      grammar.positional.toList.map PositionalRule.usage)

/-- The commands with their grammars, the command line itself first. -/
def commandGrammars : List (String × Grammar) :=
  [("nlc", mainGrammar), ("nlc compile", compileGrammar), ("nlc phases", phasesGrammar),
    ("nlc repl", converseGrammar), ("nlc layers", layersGrammar), ("nlc remote", remoteGrammar),
    ("nlc remote compile", remoteCompileGrammar), ("nlc remote session", sessionGrammar),
    ("nlc remote forget", sessionGrammar)]

/-- The usage of all commands, one line each. -/
def usageLines : List String :=
  commandGrammars.map fun (command, grammar) => "usage: " ++ grammar.usage command

end SentenceGraph.CommandLine
