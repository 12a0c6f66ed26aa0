import SentenceGraph.CommandLine.Effect
import SentenceGraph.CommandLine.Table
import SentenceGraph.Compiler

/-!
# Conversations

A conversation compiles one line of input after the other in one session, sums each sentence up, and
shows the totals of the session in the end. It ends with the input or with an empty line.
-/

namespace SentenceGraph.CommandLine

variable {R : Type} [Quantity R]

/-- A conversation so far. -/
structure Conversation (R : Type) where
  compiler : Compiler R
  session : Session R
  effect : Effect

namespace Conversation

/-- What a conversation starts with. -/
def greeting : String := "Enter a sentence per line; empty line or Ctrl-D to quit."

/-- What asks for a line. -/
def prompt : String := "> "

/-- The name of a subject or an action in a summary. -/
def shownName (name : Option String) : String :=
  (Report.nameOrNone name : Value R).inline

/-- The lines that sum up a sentence. -/
def summaryLines (graph : SemanticGraph R) : List String :=
  let counts :=
    graph.intent.kind ++ " | " ++ Decimal.naturalText graph.entities.length ++ " entities | " ++
      Decimal.naturalText graph.relationships.length ++ " relationships | " ++
      percentText graph.overallConfidence
  let head :=
    shownName (R := R) graph.mainSubject? ++ " → " ++ shownName (R := R) graph.mainAction? ++ "  " ++
      counts
  let doubt := if Report.isDoubtful graph then ["  " ++ Report.doubtReason] else []
  head :: (graph.references.map fun reference => "  " ++ SemanticGraph.referenceLine reference) ++
    doubt

def semanticsOf? (compilation : Compilation R) : Option (SemanticGraph R) :=
  match (compilation.results.lookup "semantic").bind PhaseResult.data with
  | some (.semantics graph) => some graph
  | _ => none

/-- What is shown for a compilation. -/
def replyLines (compilation : Compilation R) : List String :=
  match compilation.error with
  | some message => ["✗ Error: " ++ message]
  | none => (semanticsOf? compilation).elim [] summaryLines

/-- The text of a number in a table. -/
def fixedCell (places : Nat) (unit : String) (value : Value R) : String :=
  match (Number.ofValue? value).map Number.quantity with
  | some (.ok quantity) => Quantity.fixedText places quantity ++ unit
  | _ => value.inline ++ unit

/-- The totals of a session as a table. -/
def totals (analytics : Analytics R) : List String :=
  tableLines "Session"
    [⟨"compilations", analytics.compilations.inline⟩,
      ⟨"avg time", fixedCell 0 "ms" analytics.meanTime⟩,
      ⟨"success rate", fixedCell 1 "%" analytics.successRate⟩]

/-- Begins a conversation. -/
def start (compiler : Compiler R) : Except Fault (Conversation R) := do
  return {
    compiler
    session := ← compiler.newSession
    effect := ({ : Effect }.say greeting).write prompt }

/-- Ends a conversation with the totals of its session. -/
def finish (conversation : Conversation R) : Effect :=
  (totals conversation.session.analytics).foldl Effect.say conversation.effect

/-- Ends a conversation whose input has ended. -/
def finishInput (conversation : Conversation R) : Effect :=
  { conversation with effect := conversation.effect.write "\n" }.finish

/-- Compiles a line that is not empty, and asks for the next one. -/
def answerLine (conversation : Conversation R) (line : String) (clock : Clock R) :
    Conversation R × Option Fault :=
  let call := conversation.compiler.compile { text := line } conversation.session clock
  let conversation := { conversation with session := call.session }
  match call.answer with
  | .error fault => (conversation, some fault)
  | .ok compilation =>
      let said := (replyLines compilation).foldl Effect.say conversation.effect
      ({ conversation with effect := said.write prompt }, none)

/-- What a turn of a conversation leads to. -/
inductive Turn (R : Type) where
  | goesOn (conversation : Conversation R)
  | ends (effect : Effect)

/-- A turn: one more line, or the end of the input. -/
def turn (conversation : Conversation R) (clock : Clock R) : Option String → Turn R
  | none => .ends conversation.finishInput
  | some line =>
      let sentence := Text.trim line
      if sentence == "" then .ends conversation.finish
      else
        match conversation.answerLine sentence clock with
        | (after, none) => .goesOn after
        | (after, some fault) => .ends (after.effect.fail fault)

/-- Goes through the lines of the input. -/
def run (conversation : Conversation R) (clock : Clock R) : List String → Effect
  | [] => conversation.finishInput
  | line :: rest =>
      match conversation.turn clock (some line) with
      | .goesOn after => run after clock rest
      | .ends effect => effect

end Conversation

/-- The lines of an input; a line feed at the end starts no further line. -/
def inputLines (input : String) : List String :=
  match (Text.split '\n' input).reverse with
  | "" :: rest => rest.reverse
  | all => all.reverse

end SentenceGraph.CommandLine
