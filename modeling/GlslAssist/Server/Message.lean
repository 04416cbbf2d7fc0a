import GlslAssist.Server
import GlslAssist.Server.Params.Handshake
import GlslAssist.Server.Params.Question
import GlslAssist.Server.Params.Unanswered

/-!
# Messages of the editor's protocol

A message names a method and may have parameters, and an id if an answer is wanted. Here are the
methods that the protocol has, the shapes of their parameters, and the events that those come to
that the server knows.
-/

namespace GlslAssist.Server

structure Message where
  method : String
  id : Option Json
  params : Option Json
  deriving Repr

/-- The methods of the protocol. -/
inductive Method where
  | handshake
  | initialized
  | shutdown
  | exit
  | didOpen
  | didChange
  | didClose
  | hover
  | completion
  | signatureHelp
  /-- Takes a request back. -/
  | cancel
  /-- A request that this server has no answer to. -/
  | unanswered (name : String)
  /-- A notification that this server passes over. -/
  | otherNotification
  deriving DecidableEq, Repr

/-- Notifications that the server passes over. -/
def otherNotifications : List String :=
  ["textDocument/willSave", "textDocument/didSave", "workspace/didChangeConfiguration",
    "workspace/didChangeWorkspaceFolders", "workspace/didCreateFiles",
    "workspace/didRenameFiles", "workspace/didDeleteFiles", "workspace/didChangeWatchedFiles"]

namespace Method

/-- The method of a name; nothing for a name that the protocol does not have. -/
def ofName? (name : String) : Option Method :=
  match name with
  | "initialize" => some handshake
  | "initialized" => some initialized
  | "shutdown" => some shutdown
  | "exit" => some exit
  | "textDocument/didOpen" => some didOpen
  | "textDocument/didChange" => some didChange
  | "textDocument/didClose" => some didClose
  | "textDocument/hover" => some hover
  | "textDocument/completion" => some completion
  | "textDocument/signatureHelp" => some signatureHelp
  | "$/cancelRequest" => some cancel
  | name =>
    if unansweredParams.any (·.1 == name) then some (unanswered name)
    else if otherNotifications.contains name then some otherNotification
    else none

/-- The method wants an answer. -/
def isRequest : Method → Bool
  | handshake | shutdown | hover | completion | signatureHelp | unanswered _ => true
  | initialized | exit | didOpen | didChange | didClose | cancel | otherNotification => false

end Method

/-- The shape of the parameters of a method, where they are looked at. -/
def Method.params : Method → Shape
  | handshake => handshakeParams
  | initialized => .record "InitializedParams" []
  | didOpen => openParams
  | didChange => changeParams
  | didClose => closeParams
  | hover => hoverParams
  | completion => completionParams
  | signatureHelp => signatureHelpParams
  | unanswered name => ((unansweredParams.find? (·.1 == name)).map Prod.snd).getD .any
  | shutdown | exit | cancel | otherNotification => .any

/-! ## Reading what has conformed -/

def textAt (v : Json) (key : String) : Option String :=
  match v.field? key with
  | some (.str s) => some s
  | _ => none

def countAt (v : Json) (key : String) : Option Nat :=
  match v.field? key with
  | some (.int n) => some n.toNat
  | _ => none

def uriOf (params : Json) : Option Uri :=
  (params.field? "textDocument").bind fun doc =>
    (textAt doc "uri").bind fun text => (Uri.ofText text).toOption

def positionOf (params : Json) : Option Position := do
  let p ← params.field? "position"
  return ⟨← countAt p "line", ← countAt p "character"⟩

def changeTexts (params : Json) : List String :=
  match params.field? "contentChanges" with
  | some (.arr changes) => changes.filterMap fun change => textAt change "text"
  | _ => []

/-- The name and the version that the client gives itself. -/
def clientName (params : Json) : Option (String × String) :=
  (params.field? "clientInfo").bind fun info =>
    (textAt info "name").map fun name => (name, (textAt info "version").getD "")

/-- The event of a message whose parameters conform. -/
def Method.event? (method : Method) (params : Json) : Option Event :=
  match method with
  | didOpen => do
    let doc ← params.field? "textDocument"
    return .opened (← uriOf params) (← textAt doc "languageId") (← textAt doc "text")
  | didChange => do return .changed (← uriOf params) (changeTexts params)
  | didClose => do return .closed (← uriOf params)
  | hover => do return .hover (← uriOf params) (← positionOf params)
  | completion => do return .completion (← uriOf params) (← positionOf params)
  | signatureHelp => do return .signatureHelp (← uriOf params) (← positionOf params)
  | _ => none

end GlslAssist.Server
