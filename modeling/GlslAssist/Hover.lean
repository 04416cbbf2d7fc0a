import GlslAssist.Document
import GlslAssist.Registry

/-!
# Hover

The identifier under the cursor is resolved and its documentation rendered as Markdown. Functions
show every overload, variables their declaration; types and keywords are described in plain words.
-/

namespace GlslAssist

structure Hover where
  symbol : Symbol
  markdown : String
  range : Range
  deriving DecidableEq, Repr

namespace Hover

def codeBlock (code : String) : String :=
  "```glsl\n" ++ code ++ "\n```"

/-- What a function belongs to and does. -/
def functionNote (f : FunctionEntry) : String :=
  "**" ++ f.category ++ "** — " ++ f.description

def render : Symbol → String
  | .function f =>
    String.intercalate "\n" (f.signatures.map fun s => codeBlock s.label) ++ "\n\n"
      ++ functionNote f
  | .builtin v => codeBlock (v.type ++ " " ++ v.name) ++ "\n\n" ++ v.description
  | .uniform u => codeBlock ("uniform " ++ u.type ++ " " ++ u.name) ++ "\n\n" ++ u.description
  | .type t => t.description
  | .keyword k => k.description
  | .snippet s => s.description ++ "\n\n" ++ codeBlock s.insertText

def find (registry : Registry) (doc : Document) (pos : Position) : Option Hover :=
  (doc.wordAt pos).bind fun word =>
    (registry.resolve word.text).map fun symbol => ⟨symbol, render symbol, word.range⟩

end Hover

end GlslAssist
