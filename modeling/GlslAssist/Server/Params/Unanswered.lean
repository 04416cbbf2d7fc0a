import GlslAssist.Server.Params

/-!
# Parameters of the unanswered requests

The protocol has requests that this server has no answer to. It refuses them, but looks at their
parameters first.
-/

namespace GlslAssist.Server

def callHierarchyItem : Shape :=
  .record "CallHierarchyItem"
    [("name", .text), ("kind", .integer), ("tags", .optional (.list .integer)),
      ("detail", .optional .text), ("uri", .uri), ("range", range), ("selectionRange", range),
      ("data", .optional .any)]

def typeHierarchyItem : Shape :=
  .record "TypeHierarchyItem"
    [("name", .text), ("kind", .integer), ("tags", .optional .integer),
      ("detail", .optional .text), ("uri", .uri), ("range", range), ("selectionRange", range),
      ("data", .optional .any)]

def documentLink : Shape :=
  .record "DocumentLink"
    [("range", range), ("target", .optional .uri), ("tooltip", .optional .text),
      ("data", .optional .any)]

def codeLens : Shape :=
  .record "CodeLens"
    [("range", range), ("command", .optional command), ("data", .optional .any)]

def inlayHint : Shape :=
  let piece : Shape := .record "InlayHintLabelPart"
    [("value", .text), ("tooltip", .optional (textOrMarkup "InlayHintLabelPartTooltip")),
      ("location", .optional location), ("command", .optional command)]
  .record "InlayHint"
    [("position", position), ("label", .anyOf "InlayHintLabel" [.text, .list piece]),
      ("kind", .optional .integer), ("textEdits", .optional (.list textEdit)),
      ("tooltip", .optional (textOrMarkup "InlayHintTooltip")),
      ("paddingLeft", .optional .flag), ("paddingRight", .optional .flag),
      ("data", .optional .any)]

def completionItem : Shape :=
  let replacement : Shape := .record "InsertReplaceEdit"
    [("newText", .text), ("insert", range), ("replace", range)]
  .record "CompletionItem"
    [("label", .text),
      ("labelDetails", .optional (.record "CompletionItemLabelDetails"
        [("detail", .optional .text), ("description", .optional .text)])),
      ("kind", .optional .integer), ("detail", .optional .text),
      ("documentation", .optional (textOrMarkup "Documentation")),
      ("deprecated", .optional .flag), ("preselect", .optional .flag),
      ("sortText", .optional .text), ("filterText", .optional .text),
      ("insertText", .optional .text), ("insertTextFormat", .optional .integer),
      ("insertTextMode", .optional .integer),
      ("textEdit", .optional (.anyOf "CompletionTextEdit" [textEdit, replacement])),
      ("additionalTextEdits", .optional (.list textEdit)), ("command", .optional command),
      ("commitCharacters", .optional (.list .text)), ("data", .optional .any),
      ("tags", .optional (.list .integer))]

def diagnostic : Shape :=
  .record "Diagnostic"
    [("range", range), ("severity", .optional .integer), ("code", .optional token),
      ("codeDescription", .optional (.record "CodeDescription" [("href", .uri)])),
      ("source", .optional .text), ("message", .text),
      ("relatedInformation", .optional (.list (.record "DiagnosticRelatedInformation"
        [("location", location), ("message", .text)]))),
      ("tags", .optional (.list .integer)), ("data", .optional .any)]

/-! ## Edits of a workspace -/

def documentEdit : Shape :=
  let annotated : Shape := .joined "AnnotatedTextEdit" [("annotationId", .text)] [textEdit]
  .record "TextDocumentEdit"
    [("textDocument", .record "OptionalVersionedTextDocumentIdentifier"
        [("uri", .uri), ("version", .optional .integer)]),
      ("edits", .list (.anyOf "OneOf" [textEdit, annotated]))]

def fileOperation (kind : String) (uris options : List String) : Shape :=
  .record "ResourceOp"
    ([("kind", .choice [kind])] ++ uris.map (fun name => (name, .uri))
      ++ [("options", .optional (.record "Options"
          (options.map fun name => (name, .optional .flag)))),
        ("annotationId", .optional .text)])

def workspaceEdit : Shape :=
  let operations : List Shape :=
    [fileOperation "create" ["uri"] ["overwrite", "ignoreIfExists"],
      fileOperation "rename" ["oldUri", "newUri"] ["overwrite", "ignoreIfExists"],
      fileOperation "delete" ["uri"] ["recursive", "ignoreIfNotExists"]]
  .record "WorkspaceEdit"
    [("changes", .spare (.optional (.dictionary true (.list textEdit)))),
      ("documentChanges", .optional (.anyOf "DocumentChanges"
        [.list documentEdit,
          .list (.anyOf "DocumentChangeOperation" (operations ++ [documentEdit]))])),
      ("changeAnnotations", .optional (.dictionary false (.record "ChangeAnnotation"
        [("label", .text), ("needsConfirmation", .optional .flag),
          ("description", .optional .text)])))]

def codeAction : Shape :=
  .record "CodeAction"
    [("title", .text), ("kind", .optional .text), ("diagnostics", .optional (.list diagnostic)),
      ("edit", .optional workspaceEdit), ("command", .optional command),
      ("isPreferred", .optional .flag),
      ("disabled", .optional (.record "CodeActionDisabled" [("reason", .text)])),
      ("data", .optional .any)]

def workspaceSymbol : Shape :=
  .record "WorkspaceSymbol"
    [("name", .text), ("kind", .integer), ("tags", .optional (.list .integer)),
      ("containerName", .optional .text),
      ("location", .anyOf "OneOf" [location, .record "WorkspaceLocation" [("uri", .uri)]]),
      ("data", .optional .any)]

/-! ## Questions -/

def formattingOptions : Shape :=
  .joined "FormattingOptions"
    [("tabSize", .count), ("insertSpaces", .flag), ("trimTrailingWhitespace", .optional .flag),
      ("insertFinalNewline", .optional .flag), ("trimFinalNewlines", .optional .flag)]
    [.dictionary false (.anyOf "FormattingProperty" [.flag, .integer, .text])]

def color : Shape :=
  .record "Color"
    [("red", .number), ("green", .number), ("blue", .number), ("alpha", .number)]

def inlineValueContext : Shape :=
  .record "InlineValueContext" [("frameId", .integer), ("stoppedLocation", range)]

def codeActionContext : Shape :=
  .record "CodeActionContext"
    [("diagnostics", .list diagnostic), ("only", .optional (.list .text)),
      ("triggerKind", .optional .integer)]

/-- Requests about a text document, without the beginning that their names share. -/
def documentQuestions : List (String × Shape) :=
  [("willSaveWaitUntil",
      .record "WillSaveTextDocumentParams" [("textDocument", document), ("reason", .integer)]),
    ("declaration", questionAt "GotoDefinitionParams" [] reporting),
    ("definition", questionAt "GotoDefinitionParams" [] reporting),
    ("typeDefinition", questionAt "GotoDefinitionParams" [] reporting),
    ("implementation", questionAt "GotoDefinitionParams" [] reporting),
    ("references", questionAt "ReferenceParams"
      [("context", .record "ReferenceContext" [("includeDeclaration", .flag)])] reporting),
    ("prepareCallHierarchy", questionAt "CallHierarchyPrepareParams" [] [progress]),
    ("prepareTypeHierarchy", questionAt "TypeHierarchyPrepareParams" [] [progress]),
    ("documentHighlight", questionAt "DocumentHighlightParams" [] reporting),
    ("documentLink", questionOn "DocumentLinkParams" []),
    ("codeLens", questionOn "CodeLensParams" []),
    ("foldingRange", questionOn "FoldingRangeParams" []),
    ("selectionRange", questionOn "SelectionRangeParams" [("positions", .list position)]),
    ("documentSymbol", questionOn "DocumentSymbolParams" []),
    ("semanticTokens/full", questionOn "SemanticTokensParams" []),
    ("semanticTokens/full/delta",
      questionOn "SemanticTokensDeltaParams" [("previousResultId", .text)]),
    ("semanticTokens/range", questionOn "SemanticTokensRangeParams" [("range", range)]),
    ("inlineValue", .joined "InlineValueParams"
      [("textDocument", document), ("range", range), ("context", inlineValueContext)] [progress]),
    ("inlayHint",
      .joined "InlayHintParams" [("textDocument", document), ("range", range)] [progress]),
    ("moniker", questionAt "MonikerParams" [] reporting),
    ("diagnostic", questionOn "DocumentDiagnosticParams"
      [("identifier", .optional .text), ("previousResultId", .optional .text)]),
    ("codeAction", questionOn "CodeActionParams"
      [("range", range), ("context", codeActionContext)]),
    ("documentColor", questionOn "DocumentColorParams" []),
    ("colorPresentation", questionOn "ColorPresentationParams"
      [("color", color), ("range", range)]),
    ("formatting", .joined "DocumentFormattingParams"
      [("textDocument", document), ("options", formattingOptions)] [progress]),
    ("rangeFormatting", .joined "DocumentRangeFormattingParams"
      [("textDocument", document), ("range", range), ("options", formattingOptions)] [progress]),
    ("onTypeFormatting", questionAt "DocumentOnTypeFormattingParams"
      [("ch", .text), ("options", formattingOptions)] []),
    ("rename", questionAt "RenameParams" [("newName", .text)] [progress]),
    ("prepareRename", place),
    ("linkedEditingRange", questionAt "LinkedEditingRangeParams" [] [progress])]

/-- A request that is about files, each of which is named by these fields. -/
def fileQuestion (name item : String) (uris : List String) : Shape :=
  .record name [("files", .list (.record item (uris.map fun key => (key, .text))))]

/-- All other requests. -/
def otherQuestions : List (String × Shape) :=
  [("callHierarchy/incomingCalls",
      .joined "CallHierarchyIncomingCallsParams" [("item", callHierarchyItem)] reporting),
    ("callHierarchy/outgoingCalls",
      .joined "CallHierarchyOutgoingCallsParams" [("item", callHierarchyItem)] reporting),
    ("typeHierarchy/supertypes",
      .joined "TypeHierarchySupertypesParams" [("item", typeHierarchyItem)] reporting),
    ("typeHierarchy/subtypes",
      .joined "TypeHierarchySubtypesParams" [("item", typeHierarchyItem)] reporting),
    ("documentLink/resolve", documentLink), ("codeLens/resolve", codeLens),
    ("inlayHint/resolve", inlayHint), ("completionItem/resolve", completionItem),
    ("codeAction/resolve", codeAction), ("workspaceSymbol/resolve", workspaceSymbol),
    ("workspace/diagnostic", .joined "WorkspaceDiagnosticParams"
      [("identifier", .optional .text),
        ("previousResultIds",
          .list (.record "PreviousResultId" [("uri", .uri), ("value", .text)]))] reporting),
    ("workspace/symbol", .joined "WorkspaceSymbolParams" [("query", .text)] reporting),
    ("workspace/executeCommand", .joined "ExecuteCommandParams"
      [("command", .text), ("arguments", .spare (.list .any))] [progress]),
    ("workspace/willCreateFiles", fileQuestion "CreateFilesParams" "FileCreate" ["uri"]),
    ("workspace/willRenameFiles",
      fileQuestion "RenameFilesParams" "FileRename" ["oldUri", "newUri"]),
    ("workspace/willDeleteFiles", fileQuestion "DeleteFilesParams" "FileDelete" ["uri"])]

/-- The shape of the parameters of every request that the server has no answer to. -/
def unansweredParams : List (String × Shape) :=
  documentQuestions.map (fun q => ("textDocument/" ++ q.1, q.2)) ++ otherQuestions

end GlslAssist.Server
