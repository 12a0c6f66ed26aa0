import SentenceGraph.Clause
import SentenceGraph.Dependency
import SentenceGraph.Intent
import SentenceGraph.Value.Inline

/-!
# Parse trees

The parse tree of a sentence joins its intent, its clauses and its dependencies.
-/

namespace SentenceGraph

/-- The grammatical reading of a sentence. -/
structure ParseTree (R : Type) where
  intent : Intent R
  clauses : List (Clause R) := []
  dependencies : List (Dependency R) := []
deriving Repr

namespace ParseTree

variable {R : Type}

def toValue (tree : ParseTree R) : Value R :=
  .object
    [("type", .text "SENTENCE"), ("intent", tree.intent.toValue),
      ("clauses", .list (tree.clauses.map Clause.toValue)),
      ("dependencies", .list (tree.dependencies.map Dependency.toValue))]

variable [Quantity R]

def ofTokens (tokens : List (Token R)) : ParseTree R where
  intent := .ofTokens tokens
  clauses := Clause.ofTokens tokens
  dependencies := Dependency.ofTokens tokens

end ParseTree

end SentenceGraph
