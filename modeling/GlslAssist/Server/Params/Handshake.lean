import GlslAssist.Server.Params

/-!
# Parameters of the handshake

What a client tells about itself, of which the server needs its name alone. All of it has to fit.
-/

namespace GlslAssist.Server

/-- Settings that are on or off, none of which has to be given. -/
def switches (name : String) (settings : List String) : Shape :=
  .record name (settings.map fun setting => (setting, .optional .flag))

/-- Whether a method may be registered later. -/
def registration : Shape :=
  switches "DynamicRegistrationClientCapabilities" ["dynamicRegistration"]

def refreshing (name : String) : Shape :=
  switches name ["refreshSupport"]

/-- A list of values that are understood. -/
def valueSet (name : String) (value : Shape) : Shape :=
  .optional (.record name [("valueSet", .optional (.list value))])

/-- Tags that are understood. Some clients only say whether they understand any. -/
def tagSupport : Shape :=
  .spare (.optional (.orFlag (.record "TagSupport" [("valueSet", .list .integer)])))

def resolveSupport (name : String) : Shape :=
  .optional (.record name [("properties", .list .text)])

def onOff (name : String) : String × Shape :=
  (name, .optional .flag)

def canRegister : String × Shape :=
  onOff "dynamicRegistration"

def workspaceEditCapabilities : Shape :=
  .record "WorkspaceEditClientCapabilities"
    [onOff "documentChanges",
      ("resourceOperations", .optional (.list (.choice ["create", "rename", "delete"]))),
      ("failureHandling",
        .optional (.choice ["abort", "transactional", "textOnlyTransactional", "undo"])),
      onOff "normalizesLineEndings",
      ("changeAnnotationSupport",
        .optional (switches "ChangeAnnotationWorkspaceEditClientCapabilities"
          ["groupsOnLabel"]))]

def workspaceSymbolCapabilities : Shape :=
  .record "WorkspaceSymbolClientCapabilities"
    [canRegister, ("symbolKind", valueSet "SymbolKindCapability" .integer),
      ("tagSupport", tagSupport),
      ("resolveSupport", resolveSupport "WorkspaceSymbolResolveSupportCapability")]

def fileOperationCapabilities : Shape :=
  switches "WorkspaceFileOperationsClientCapabilities"
    ["dynamicRegistration", "didCreate", "willCreate", "didRename", "willRename", "didDelete",
      "willDelete"]

def workspaceCapabilities : Shape :=
  .record "WorkspaceClientCapabilities"
    [onOff "applyEdit", ("workspaceEdit", .optional workspaceEditCapabilities),
      ("didChangeConfiguration", .optional registration),
      ("didChangeWatchedFiles", .optional
        (switches "DidChangeWatchedFilesClientCapabilities"
          ["dynamicRegistration", "relativePatternSupport"])),
      ("symbol", .optional workspaceSymbolCapabilities),
      ("executeCommand", .optional registration), onOff "workspaceFolders",
      onOff "configuration",
      ("semanticTokens", .optional (refreshing "SemanticTokensWorkspaceClientCapabilities")),
      ("codeLens", .optional (refreshing "CodeLensWorkspaceClientCapabilities")),
      ("fileOperations", .optional fileOperationCapabilities),
      ("inlineValue", .optional (refreshing "InlineValueWorkspaceClientCapabilities")),
      ("inlayHint", .optional (refreshing "InlayHintWorkspaceClientCapabilities")),
      ("diagnostic", .optional (refreshing "DiagnosticWorkspaceClientCapabilities"))]

/-! ## Documents -/

def completionItemCapabilities : Shape :=
  .record "CompletionItemCapability"
    [onOff "snippetSupport", onOff "commitCharactersSupport",
      ("documentationFormat", .optional (.list markupKind)), onOff "deprecatedSupport",
      onOff "preselectSupport", ("tagSupport", tagSupport), onOff "insertReplaceSupport",
      ("resolveSupport", resolveSupport "CompletionItemCapabilityResolveSupport"),
      ("insertTextModeSupport",
        .optional (.record "InsertTextModeSupport" [("valueSet", .list .integer)])),
      onOff "labelDetailsSupport"]

def completionCapabilities : Shape :=
  .record "CompletionClientCapabilities"
    [canRegister, ("completionItem", .optional completionItemCapabilities),
      ("completionItemKind", valueSet "CompletionItemKindCapability" .integer),
      onOff "contextSupport", ("insertTextMode", .optional .integer),
      ("completionList", .optional
        (.record "CompletionListCapability" [("itemDefaults", .optional (.list .text))]))]

def hoverCapabilities : Shape :=
  .record "HoverClientCapabilities"
    [canRegister, ("contentFormat", .optional (.list markupKind))]

def signatureHelpCapabilities : Shape :=
  .record "SignatureHelpClientCapabilities"
    [canRegister,
      ("signatureInformation", .optional (.record "SignatureInformationSettings"
        [("documentationFormat", .optional (.list markupKind)),
          ("parameterInformation",
            .optional (switches "ParameterInformationSettings" ["labelOffsetSupport"])),
          onOff "activeParameterSupport"])),
      onOff "contextSupport"]

def documentSymbolCapabilities : Shape :=
  .record "DocumentSymbolClientCapabilities"
    [canRegister, ("symbolKind", valueSet "SymbolKindCapability" .integer),
      onOff "hierarchicalDocumentSymbolSupport", ("tagSupport", tagSupport)]

def codeActionCapabilities : Shape :=
  .record "CodeActionClientCapabilities"
    [canRegister,
      ("codeActionLiteralSupport", .optional (.record "CodeActionLiteralSupport"
        [("codeActionKind",
          .record "CodeActionKindLiteralSupport" [("valueSet", .list .text)])])),
      onOff "isPreferredSupport", onOff "disabledSupport", onOff "dataSupport",
      ("resolveSupport", resolveSupport "CodeActionCapabilityResolveSupport"),
      onOff "honorsChangeAnnotations"]

def renameCapabilities : Shape :=
  .record "RenameClientCapabilities"
    [canRegister, onOff "prepareSupport", ("prepareSupportDefaultBehavior", .optional .integer),
      onOff "honorsChangeAnnotations"]

def diagnosticsCapabilities : Shape :=
  .record "PublishDiagnosticsClientCapabilities"
    [onOff "relatedInformation", ("tagSupport", tagSupport), onOff "versionSupport",
      onOff "codeDescriptionSupport", onOff "dataSupport"]

def foldingCapabilities : Shape :=
  .record "FoldingRangeClientCapabilities"
    [canRegister, ("rangeLimit", .optional .count), onOff "lineFoldingOnly",
      ("foldingRangeKind",
        valueSet "FoldingRangeKindCapability" (.choice ["comment", "imports", "region"])),
      ("foldingRange", .optional (switches "FoldingRangeCapability" ["collapsedText"]))]

def semanticTokensCapabilities : Shape :=
  .record "SemanticTokensClientCapabilities"
    [canRegister,
      ("requests", .record "SemanticTokensClientCapabilitiesRequests"
        [onOff "range",
          ("full", .optional (.anyOf "SemanticTokensFullOptions"
            [.flag, .joined "Delta" [onOff "delta"] []]))]),
      ("tokenTypes", .list .text), ("tokenModifiers", .list .text),
      ("formats", .list (.choice ["relative"])), onOff "overlappingTokenSupport",
      onOff "multilineTokenSupport", onOff "serverCancelSupport", onOff "augmentsSyntaxTokens"]

def inlayHintCapabilities : Shape :=
  .record "InlayHintClientCapabilities"
    [canRegister, ("resolveSupport", resolveSupport "InlayHintResolveClientCapabilities")]

def documentCapabilities : Shape :=
  let goto : Shape := .optional (switches "GotoCapability" ["dynamicRegistration", "linkSupport"])
  .record "TextDocumentClientCapabilities"
    [("synchronization", .optional (switches "TextDocumentSyncClientCapabilities"
        ["dynamicRegistration", "willSave", "willSaveWaitUntil", "didSave"])),
      ("completion", .optional completionCapabilities),
      ("hover", .optional hoverCapabilities),
      ("signatureHelp", .optional signatureHelpCapabilities),
      ("references", .optional registration),
      ("documentHighlight", .optional registration),
      ("documentSymbol", .optional documentSymbolCapabilities),
      ("formatting", .optional registration),
      ("rangeFormatting", .optional registration),
      ("onTypeFormatting", .optional registration),
      ("declaration", goto), ("definition", goto), ("typeDefinition", goto),
      ("implementation", goto),
      ("codeAction", .optional codeActionCapabilities),
      ("codeLens", .optional registration),
      ("documentLink", .optional (switches "DocumentLinkClientCapabilities"
        ["dynamicRegistration", "tooltipSupport"])),
      ("colorProvider", .optional registration),
      ("rename", .optional renameCapabilities),
      ("publishDiagnostics", .optional diagnosticsCapabilities),
      ("foldingRange", .optional foldingCapabilities),
      ("selectionRange",
        .optional (switches "SelectionRangeClientCapabilities" ["dynamicRegistration"])),
      ("linkedEditingRange", .optional registration),
      ("callHierarchy", .optional registration),
      ("semanticTokens", .optional semanticTokensCapabilities),
      ("moniker", .optional registration),
      ("typeHierarchy", .optional registration),
      ("inlineValue", .optional registration),
      ("inlayHint", .optional inlayHintCapabilities),
      ("diagnostic", .optional (switches "DiagnosticClientCapabilities"
        ["dynamicRegistration", "relatedDocumentSupport"]))]

/-! ## The rest -/

def windowCapabilities : Shape :=
  .record "WindowClientCapabilities"
    [onOff "workDoneProgress",
      ("showMessage", .optional (.record "ShowMessageRequestClientCapabilities"
        [("messageActionItem", .optional
          (switches "MessageActionItemCapabilities" ["additionalPropertiesSupport"]))])),
      ("showDocument",
        .optional (.record "ShowDocumentClientCapabilities" [("support", .flag)]))]

def generalCapabilities : Shape :=
  .record "GeneralClientCapabilities"
    [("regularExpressions", .optional (.record "RegularExpressionsClientCapabilities"
        [("engine", .text), ("version", .optional .text)])),
      ("markdown", .optional (.record "MarkdownClientCapabilities"
        [("parser", .text), ("version", .optional .text),
          ("allowedTags", .optional (.list .text))])),
      ("staleRequestSupport", .optional (.record "StaleRequestSupportClientCapabilities"
        [("cancel", .flag), ("retryOnContentModified", .list .text)])),
      ("positionEncodings", .optional (.list .text))]

def clientCapabilities : Shape :=
  .record "ClientCapabilities"
    [("workspace", .optional workspaceCapabilities),
      ("textDocument", .optional documentCapabilities),
      ("window", .optional windowCapabilities),
      ("general", .optional generalCapabilities),
      ("experimental", .optional .any)]

def workspaceFolder : Shape :=
  .record "WorkspaceFolder" [("uri", .uri), ("name", .text)]

def clientInfo : Shape :=
  .record "ClientInfo" [("name", .text), ("version", .optional .text)]

def handshakeParams : Shape :=
  .record "InitializeParams"
    [("processId", .optional .count), ("rootPath", .optional .text),
      ("rootUri", .spare (.optional .uri)), ("initializationOptions", .optional .any),
      ("capabilities", clientCapabilities),
      ("trace", .spare (.optional (.choice ["off", "messages", "verbose"]))),
      ("workspaceFolders", .optional (.list workspaceFolder)),
      ("clientInfo", .optional clientInfo), ("locale", .optional .text)]

end GlslAssist.Server
