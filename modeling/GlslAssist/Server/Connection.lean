import GlslAssist.Json.Reader
import GlslAssist.Server.Frame
import GlslAssist.Server.Session

/-!
# Connections

A connection carries a session over a stream of frames. What arrives is kept until a frame is whole,
and each frame is answered in turn. The connection ends with its session, at the first frame that
cannot be read, and where the stream ends in the middle of a frame. After a frame with an empty body
nothing is read until more arrives.
-/

namespace GlslAssist

namespace Server

/-- What a body turns out to be. -/
inductive Incoming where
  | message (m : Message)
  /-- An answer of the client, which nobody waits for. -/
  | response
  | malformed (why : Refusal)

/-- An integer of sixty-four bits. -/
def isLong : Json → Bool
  | .int n => -9223372036854775808 ≤ n && n < 9223372036854775808
  | _ => false

/-- An id is an integer, a text, or null. -/
def isId : Json → Bool
  | .str _ | .null => true
  | v => isLong v

def isText : Json → Bool
  | .str _ => true
  | _ => false

/-- The mark of a message of this protocol. -/
def isVersion : Json → Bool
  | .str s => s = "2.0"
  | _ => false

abbrev Entries := List (String × Json)

def valuesOf (key : String) (entries : Entries) : List Json :=
  (entries.filter (·.1 == key)).map Prod.snd

/-- The key is there once, with a value of some kind. -/
def hasOne (key : String) (isFit : Json → Bool) (entries : Entries) : Bool :=
  match valuesOf key entries with
  | [v] => isFit v
  | _ => false

/-- An error as it is told: a code, a text, and perhaps more. -/
def isError : Json → Bool
  | .obj entries =>
    hasOne "code" isLong entries && hasOne "message" isText entries
      && (valuesOf "data" entries).length ≤ 1
  | .arr [code, text, _] => isLong code && isText text
  | _ => false

def isResponse (entries : Entries) : Bool :=
  hasOne "jsonrpc" isVersion entries && hasOne "id" isId entries
    && (hasOne "result" (fun _ => true) entries || hasOne "error" isError entries)

/-- A message of its four parts, of which only the mark has to be there. -/
def messageOf (version : Option Json) (method params id : Option Json) : Incoming :=
  if version.any isVersion && method.all isText && id.all isId then
    match method with
    | some (.str name) => .message ⟨name, id, params⟩
    | _ => .message ⟨"", id, params⟩
  else .malformed .invalidRequest

/-- What a value is. The parts of a message may come as a list, and no part may come twice. -/
def incomingOf : Json → Incoming
  | .obj entries =>
    let part (key : String) : Option Json := (valuesOf key entries).head?
    if isResponse entries then .response
    else if ["jsonrpc", "method", "params", "id"].all fun key =>
        (valuesOf key entries).length ≤ 1 then
      messageOf (part "jsonrpc") (part "method") (part "params") (part "id")
    else .malformed .invalidRequest
  | .arr parts =>
    if parts.length ≤ 4 then messageOf parts[0]? parts[1]? parts[2]? parts[3]?
    else .malformed .invalidRequest
  | _ => .malformed .invalidRequest

def incoming (body : List UInt8) : Incoming :=
  match (String.fromUTF8? ⟨body.toArray⟩).bind Json.ofText? with
  | none => .malformed .unreadable
  | some v => incomingOf v

/-! ## What is written -/

def resultMessage (id result : Json) : Json :=
  .obj [("jsonrpc", .str "2.0"), ("result", result.sorted), ("id", id)]

def refusalMessage (id : Json) (why : Refusal) : Json :=
  let data := match why with
    | .methodNotFound (some name) => [("data", Json.str name)]
    | _ => []
  .obj [("jsonrpc", .str "2.0"),
    ("error", .obj ([("code", .int why.code), ("message", .str why.message)] ++ data)),
    ("id", id)]

def noticeMessage (n : Notice) : Json :=
  .obj [("jsonrpc", .str "2.0"), ("method", .str n.method), ("params", n.params.sorted)]

/-- The answer to a message, if it has an id to answer to. -/
def replyMessage (id : Option Json) : Reply → List Json
  | .result v => (id.map fun id => resultMessage id v).toList
  | .refused why => (id.map fun id => refusalMessage id why).toList
  | .silent | .exited => []

end Server

/-- A session, the bytes that have arrived and not been used, and whether more are wanted. -/
structure Connection where
  session : Session
  unused : List UInt8
  isOpen : Bool

namespace Connection

open Server

/-- What some bytes come to: the messages to write and the records to log. -/
structure Outcome where
  connection : Connection
  written : List Json
  log : List Record

def start (settings : Settings) : Connection :=
  ⟨.start settings, [], true⟩

/-- Says why the stream cannot be read further. -/
def fail (session : Session) (why : Refusal) : Outcome :=
  ⟨⟨session, [], false⟩, [refusalMessage .null why], []⟩

/-- Answers a message, the connection ending if the session is over. -/
def answer (session : Session) (message : Message) (rest : List UInt8) : Outcome :=
  let outcome := session.handle message
  let isOver := match outcome.reply with
    | .exited => true
    | _ => false
  ⟨⟨outcome.session, rest, !isOver⟩,
    outcome.sent.map noticeMessage ++ replyMessage message.id outcome.reply, outcome.log⟩

/-- Answers the body of a frame. -/
def takeBody (session : Session) (body rest : List UInt8) : Outcome :=
  match incoming body with
  | .message m => answer session m rest
  | .response => ⟨⟨session, rest, true⟩, [], []⟩
  | .malformed why => fail session why

/-- Nothing more is to be read for now, or at all if the stream is at its end. What is left over at
the end of the stream, and cannot be read, is told. -/
def pause (session : Session) (atEnd : Bool) (unused left : List UInt8) : Outcome :=
  if !atEnd then ⟨⟨session, unused, true⟩, [], []⟩
  else if left = [] then ⟨⟨session, [], false⟩, [], []⟩
  else fail session .unreadable

/-- Answers the frames that are whole, up to one with an empty body, which says nothing. -/
def drain (session : Session) (atEnd : Bool) (s : List UInt8) : Outcome :=
  match _ : Frame.next s with
  | .incomplete isBare => pause session atEnd s (if isBare then [] else s)
  | .broken => fail session .unreadable
  | .whole body rest =>
    if body = [] then pause session atEnd rest rest
    else
      let first := takeBody session body rest
      if first.connection.isOpen then
        let more := drain first.connection.session atEnd rest
        ⟨more.connection, first.written ++ more.written, first.log ++ more.log⟩
      else first
termination_by s.length
decreasing_by exact Frame.next_rest_length_lt ‹_›

/-- Takes bytes that have arrived. -/
def receive (c : Connection) (bytes : List UInt8) : Outcome :=
  if c.isOpen then drain c.session false (c.unused ++ bytes) else ⟨c, [], []⟩

/-- Takes the end of the stream. -/
def close (c : Connection) : Outcome :=
  if c.isOpen then drain c.session true c.unused else ⟨c, [], []⟩

/-- Everything that comes of a stream from its beginning to its end. -/
def ofStream (settings : Settings) (input : List UInt8) : List Json × List Record :=
  let body := (start settings).receive input
  let ending := body.connection.close
  (body.written ++ ending.written, body.log ++ ending.log)

end Connection

end GlslAssist
