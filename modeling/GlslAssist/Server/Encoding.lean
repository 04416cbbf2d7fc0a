import GlslAssist.Encoding
import GlslAssist.Server

/-!
# Answers in the editor's protocol

Hovers, signature help and completion items in the shapes that the Language Server Protocol gives
them, and the capabilities that the server announces.
-/

namespace GlslAssist

open Json

/-- Text in the protocol's Markdown wrapping. -/
def markup (text : String) : Json :=
  obj [("kind", str "markdown"), ("value", str text)]

def Hover.toReply (h : Hover) : Json :=
  obj [("contents", markup h.markdown), ("range", h.range.toJson)]

def SignatureHelp.toReply (h : SignatureHelp) : Json :=
  let one (s : Signature) : Json :=
    obj [("label", str s.label), ("documentation", markup h.function.description),
      ("parameters", arr (s.parameters.map Parameter.toJson))]
  obj [("signatures", arr (h.function.signatures.map one)),
    ("activeSignature", int h.activeSignature), ("activeParameter", int h.activeParameter)]

/-- The protocol's number for a kind of completion item. -/
def CandidateKind.code : CandidateKind → Nat
  | uniform => 21
  | snippet => 15
  | function => 3
  | type => 7
  | builtin => 6
  | keyword => 14

def TextEdit.toJson (e : TextEdit) : Json :=
  obj [("range", e.range.toJson), ("newText", str e.newText)]

/-- The item that puts the candidate's text in place of a range. -/
def Candidate.toReply (range : Range) (c : Candidate) : Json :=
  obj [("label", str c.label), ("kind", int c.kind.code), ("detail", str c.detail),
    ("documentation", markup c.documentation), ("sortText", str c.sortText),
    ("insertTextFormat", int (if c.isSnippet then 2 else 1)),
    ("textEdit", (c.edit range).toJson)]

def Completion.toReply (c : Completion) : Json :=
  arr (c.items.map (Candidate.toReply c.range))

namespace Server

/-- Whole documents are sent on every change. -/
def capabilities : Json :=
  obj [("completionProvider", obj []), ("hoverProvider", bool true),
    ("signatureHelpProvider", obj [("triggerCharacters", arr [str "("]),
      ("retriggerCharacters", arr [str ","])]),
    ("textDocumentSync", int 1)]

/-- Nothing is answered to what is no question. -/
def Answer.toReply : Answer → Json
  | .nothing => null
  | .hover h => (h.map Hover.toReply).getD null
  | .completion c => (c.map Completion.toReply).getD null
  | .signatureHelp h => (h.map SignatureHelp.toReply).getD null

end Server

end GlslAssist
