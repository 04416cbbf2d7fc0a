import GlslAssist.Server.Encoding
import GlslAssist.Server.Message

/-!
# Sessions

A session goes from its handshake to its end. Requests are answered only while it runs: before the
handshake and after the shutdown they are refused, and notifications then do nothing. A method that
the protocol does not have is refused at any time, unless it is a notification or its name says that
it may be passed over. Whether a message comes at the right time is looked at first, then whether it
has an id where it should, then its parameters. To take back a request is always too late, since
messages are answered one after another; as a request itself it makes no sense at any time.
-/

namespace GlslAssist

namespace Server

inductive Phase where
  | uninitialized
  | running
  | shutDown
  | exited
  deriving DecidableEq, Repr

/-- Why a request is not answered. -/
inductive Refusal where
  | unreadable
  | invalidRequest
  | notInitialized
  /-- The name is given where the protocol has no such method. -/
  | methodNotFound (name : Option String)
  | missingParams
  | unexpectedParams (given : Json)
  | badParams (m : Mismatch)
  deriving Repr

namespace Refusal

def code : Refusal → Int
  | unreadable => -32700
  | invalidRequest => -32600
  | notInitialized => -32002
  | methodNotFound _ => -32601
  | missingParams | unexpectedParams _ | badParams _ => -32602

def message : Refusal → String
  | unreadable => "Parse error"
  | invalidRequest => "Invalid request"
  | notInitialized => "Server not initialized"
  | methodNotFound _ => "Method not found"
  | missingParams => "Missing params field"
  | unexpectedParams given => "Unexpected params: " ++ given.sorted.compact
  | badParams m => m.message

end Refusal

inductive Reply where
  | result (v : Json)
  | refused (why : Refusal)
  | silent
  /-- The session is over. -/
  | exited
  deriving Repr

/-- A message from the server that answers no request. -/
structure Notice where
  method : String
  params : Json

end Server

/-- A server with its settings, somewhere between handshake and end. -/
structure Session where
  settings : Settings
  phase : Server.Phase
  state : Server.State

namespace Session

open Server

/-- What one message comes to. -/
structure Outcome where
  session : Session
  reply : Reply
  sent : List Notice
  log : List Record

def start (settings : Settings) : Session :=
  ⟨settings, .uninitialized, .start⟩

/-- The message changes nothing. -/
def unchanged (s : Session) (reply : Reply) : Outcome :=
  ⟨s, reply, [], []⟩

/-- A refusal is told only to who waits for an answer. -/
def refuse (s : Session) (id : Option Json) (why : Refusal) : Outcome :=
  s.unchanged (if id.isSome then .refused why else .silent)

/-- The answer to the handshake. -/
def greeting : Json :=
  .obj [("capabilities", capabilities),
    ("serverInfo", .obj [("name", .str "shaderlab"), ("version", .str "0.1.0")])]

/-- What is said once the client is ready. -/
def readyNotice : Notice :=
  ⟨"window/logMessage",
    .obj [("type", .int 3), ("message", .str "shaderlab initialized")]⟩

def clientRecord (params : Json) : List Record :=
  match clientName params with
  | some (name, version) => [⟨.info, .server, "client: " ++ name ++ " " ++ version⟩]
  | none => []

/-- The parameters as the method wants them. -/
def conforming (method : Method) (params : Option Json) : Except Refusal Json :=
  match params with
  | none => .error .missingParams
  | some params => (method.params.conform false params.sorted).mapError .badParams

/-- Carries out an event. -/
def carryOut (s : Session) (event : Option Event) : Outcome :=
  match event with
  | none => s.unchanged .silent
  | some event =>
    let outcome := Server.step s.settings s.state event
    ⟨{ s with state := outcome.state }, .result outcome.answer.toReply, [], outcome.log⟩

/-- Answers a request that comes at the right time. -/
def request (s : Session) (method : Method) (params : Option Json) : Outcome :=
  match method with
  | .shutdown =>
    match params with
    | some given => s.unchanged (.refused (.unexpectedParams given))
    | none => s.unchanged (.result .null)
  | method =>
    match conforming method params with
    | .error why => s.unchanged (.refused why)
    | .ok params =>
      match method with
      | .handshake =>
        ⟨{ s with phase := .running }, .result greeting, [], clientRecord params⟩
      | .unanswered _ => s.unchanged (.refused (.methodNotFound none))
      | method => s.carryOut (method.event? params)

/-- Takes a notification that comes at the right time. -/
def notify (s : Session) (method : Method) (params : Option Json) : Outcome :=
  match conforming method params with
  | .error _ => s.unchanged .silent
  | .ok params =>
    match method with
    | .initialized => { s.unchanged .silent with sent := [readyNotice] }
    | method => { s.carryOut (method.event? params) with reply := .silent }

/-- Takes a message of a known method at the right time. A shutdown takes effect even if something
is wrong with it. -/
def perform (s : Session) (method : Method) (message : Message) : Outcome :=
  let s := if method = .shutdown then { s with phase := .shutDown } else s
  match method.isRequest, message.id with
  | true, some _ => s.request method message.params
  | true, none => s.unchanged .silent
  | false, some _ => s.unchanged (.refused .invalidRequest)
  | false, none => s.notify method message.params

/-- Why a method cannot be used in a phase. -/
def untimely? (phase : Phase) (method : Method) : Option Refusal :=
  if method = .handshake then
    if phase = .uninitialized then none else some .invalidRequest
  else
    match phase with
    | .uninitialized => some .notInitialized
    | .running => none
    | .shutDown | .exited => some .invalidRequest

/-- Methods of this kind may be passed over by who does not know them. -/
def mayBeIgnored (name : String) : Bool :=
  "$/".toList.isPrefixOf name.toList

def handle (s : Session) (message : Message) : Outcome :=
  if s.phase = .exited then s.unchanged .exited
  else
    match Method.ofName? message.method with
    | none =>
      if mayBeIgnored message.method then s.unchanged .silent
      else s.refuse message.id (.methodNotFound (some message.method))
    | some .exit => { s.unchanged .silent with session := { s with phase := .exited } }
    | some .cancel => s.refuse message.id .invalidRequest
    | some method =>
      match untimely? s.phase method with
      | some why => s.refuse message.id why
      | none => s.perform method message

/-- Takes messages one after another. -/
def run (s : Session) : List Message → List Outcome
  | [] => []
  | message :: rest =>
    let outcome := s.handle message
    outcome :: run outcome.session rest

end Session

end GlslAssist
