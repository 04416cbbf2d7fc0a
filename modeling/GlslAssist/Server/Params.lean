import GlslAssist.Json.Shape

/-!
# Parts of parameters

The shapes from which the parameters of the protocol's methods are made.
-/

namespace GlslAssist.Server

/-! ## Values -/

/-- A number or a text that the sender has chosen. -/
def token : Shape :=
  .anyOf "NumberOrString" [.integer, .text]

def markupKind : Shape :=
  .choice ["plaintext", "markdown"]

def markupContent : Shape :=
  .record "MarkupContent" [("kind", markupKind), ("value", .text)]

/-- Plain text or markup, under the name that the protocol has for it at some place. -/
def textOrMarkup (name : String) : Shape :=
  .anyOf name [.text, markupContent]

def position : Shape :=
  .record "Position" [("line", .count), ("character", .count)]

def range : Shape :=
  .record "Range" [("start", position), ("end", position)]

def location : Shape :=
  .record "Location" [("uri", .uri), ("range", range)]

def document : Shape :=
  .record "TextDocumentIdentifier" [("uri", .uri)]

def textEdit : Shape :=
  .record "TextEdit" [("range", range), ("newText", .text)]

def command : Shape :=
  .record "Command"
    [("title", .text), ("command", .text), ("arguments", .optional (.list .any))]

/-! ## Records that are joined to others -/

def place : Shape :=
  .record "TextDocumentPositionParams" [("textDocument", document), ("position", position)]

def progress : Shape :=
  .record "WorkDoneProgressParams" [("workDoneToken", .optional token)]

def partialResults : Shape :=
  .record "PartialResultParams" [("partialResultToken", .optional token)]

/-- What every question about a document that may be answered in parts has besides its own. -/
def reporting : List Shape :=
  [progress, partialResults]

/-- A question at a position. -/
def questionAt (name : String) (own : List (String × Shape)) (others : List Shape) : Shape :=
  .joined name own (place :: others)

/-- A question about a whole document. -/
def questionOn (name : String) (own : List (String × Shape)) : Shape :=
  .joined name (("textDocument", document) :: own) reporting

end GlslAssist.Server
