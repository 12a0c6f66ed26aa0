import SentenceGraph.Json.Printer
import SentenceGraph.Markup
import SentenceGraph.Outline
import SentenceGraph.Text.Blank
import SentenceGraph.Text.Lowercase

/-!
# Renderings of a document

A document is rendered as JSON, as an outline or as XML. A request names the format in any case and
with blanks around it; a request for an unknown format gets JSON.
-/

namespace SentenceGraph

/-- The formats of a rendered document. -/
inductive Format where
  | json
  | outline
  | xml
deriving DecidableEq, Repr

namespace Format

def name : Format → String
  | json => "json"
  | outline => "yaml"
  | xml => "xml"

/-- The name of a format in a summary. -/
def title : Format → String
  | json => "JSON"
  | outline => "YAML"
  | xml => "XML"

def all : List Format := [json, outline, xml]

/-- The format of exactly this name. -/
def ofName? (name : String) : Option Format :=
  all.find? (·.name == name)

/-- The format that a request means; a request may be missing. -/
def ofRequest (request : Option String) : Format :=
  let wanted := Text.lowercase (Text.trim (request.getD ""))
  if wanted == "yml" then outline else (ofName? wanted).getD json

end Format

/-- A document: the members of its outermost object. -/
abbrev Document (R : Type) := List (String × Value R)

/-- The text of a document in a format. -/
def Document.render {R : Type} [Quantity R] (document : Document R) : Format → String
  | .json => Json.print .document (.object document)
  | .outline => Outline.print 0 document
  | .xml => Markup.print Markup.rootName document

end SentenceGraph
