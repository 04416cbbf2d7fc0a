import GlslAssist.Completion
import GlslAssist.Json

/-!
# Descriptors and candidates as JSON

The fields stand in the order of the listings of the command line.
-/

namespace GlslAssist

open Json

def Position.toJson (p : Position) : Json :=
  obj [("line", int p.line), ("character", int p.character)]

def Range.toJson (r : Range) : Json :=
  obj [("start", r.start.toJson), ("end", r.stop.toJson)]

/-- The documentation is left out where there is none. -/
def Parameter.toJson (p : Parameter) : Json :=
  obj (("label", str p.label)
    :: (p.documentation.map fun note => ("documentation", str note)).toList)

def Signature.toJson (s : Signature) : Json :=
  obj [("label", str s.label), ("parameters", arr (s.parameters.map Parameter.toJson))]

def Variable.fields (v : Variable) : List (String × Json) :=
  [("name", str v.name), ("type", str v.type), ("description", str v.description)]

def Symbol.fields : Symbol → List (String × Json)
  | .function f =>
    [("name", str f.name), ("signatures", arr (f.signatures.map Signature.toJson)),
      ("description", str f.description), ("category", str f.category)]
  | .type t => [("name", str t.name), ("description", str t.description)]
  | .builtin v => v.fields
  | .uniform u => u.fields
  | .keyword k => [("name", str k.name), ("description", str k.description)]
  | .snippet s =>
    [("label", str s.label), ("insert_text", str s.insertText), ("description", str s.description)]

def Symbol.toJson (s : Symbol) : Json :=
  obj (("kind", str s.space.tag) :: s.fields)

def Candidate.toJson (c : Candidate) : Json :=
  obj [("label", str c.label), ("kind", str c.kind.name), ("detail", str c.detail),
    ("documentation", str c.documentation), ("insert_text", str c.insertText),
    ("is_snippet", bool c.isSnippet), ("sort_text", str c.sortText)]

/-- A completion with only some of its candidates. -/
def Completion.toJson (c : Completion) (items : List Candidate) : Json :=
  obj [("prefix", str c.typed), ("range", c.range.toJson),
    ("items", arr (items.map Candidate.toJson))]

end GlslAssist
