import GlslAssist.Server.Params

/-!
# Parameters of the answered methods

The shapes of what the server is told about documents and asked about positions in them.
-/

namespace GlslAssist.Server

/-! ## Documents -/

def openParams : Shape :=
  .record "DidOpenTextDocumentParams"
    [("textDocument", .record "TextDocumentItem"
      [("uri", .uri), ("languageId", .text), ("version", .integer), ("text", .text)])]

def changeParams : Shape :=
  .record "DidChangeTextDocumentParams"
    [("textDocument", .record "VersionedTextDocumentIdentifier"
        [("uri", .uri), ("version", .integer)]),
      ("contentChanges", .list (.record "TextDocumentContentChangeEvent"
        [("range", .optional range), ("rangeLength", .optional .count), ("text", .text)]))]

def closeParams : Shape :=
  .record "DidCloseTextDocumentParams" [("textDocument", document)]

/-! ## Positions -/

def hoverParams : Shape :=
  questionAt "HoverParams" [] [progress]

def completionContext : Shape :=
  .record "CompletionContext" [("triggerKind", .integer), ("triggerCharacter", .optional .text)]

def completionParams : Shape :=
  questionAt "CompletionParams" [("context", .optional completionContext)] reporting

def parameterInformation : Shape :=
  .record "ParameterInformation"
    [("label", .anyOf "ParameterLabel" [.text, .pair .count]),
      ("documentation", .optional (textOrMarkup "Documentation"))]

def signatureInformation : Shape :=
  .record "SignatureInformation"
    [("label", .text), ("documentation", .optional (textOrMarkup "Documentation")),
      ("parameters", .optional (.list parameterInformation)),
      ("activeParameter", .optional .count)]

/-- The help that a client shows at the moment. -/
def shownHelp : Shape :=
  .record "SignatureHelp"
    [("signatures", .list signatureInformation), ("activeSignature", .optional .count),
      ("activeParameter", .optional .count)]

def signatureHelpContext : Shape :=
  .record "SignatureHelpContext"
    [("triggerKind", .integer), ("triggerCharacter", .optional .text), ("isRetrigger", .flag),
      ("activeSignatureHelp", .optional shownHelp)]

def signatureHelpParams : Shape :=
  questionAt "SignatureHelpParams" [("context", .optional signatureHelpContext)] [progress]

end GlslAssist.Server
