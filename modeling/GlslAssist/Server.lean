import GlslAssist.Completion
import GlslAssist.Log
import GlslAssist.Settings.Discovery
import GlslAssist.SignatureHelp
import GlslAssist.Uri

/-!
# The server

The server keeps the documents that the client has open and answers questions about them. A document
is taken in if it is said to be in the language or its file has one of the extensions; a change
replaces the whole text. The list of candidates is built for the first completion of an open
document and kept from then on.
-/

namespace GlslAssist

namespace Server

/-- The identifier of the language that the server registers for. -/
def languageId : String := "glsl"

/-- What a client tells the server or asks of it. -/
inductive Event where
  | opened (uri : Uri) (language text : String)
  /-- The texts of a list of changes, each of the whole document. -/
  | changed (uri : Uri) (texts : List String)
  | closed (uri : Uri)
  | hover (uri : Uri) (pos : Position)
  | completion (uri : Uri) (pos : Position)
  | signatureHelp (uri : Uri) (pos : Position)
  deriving DecidableEq, Repr

inductive Answer where
  | nothing
  | hover (h : Option Hover)
  | completion (c : Option Completion)
  | signatureHelp (h : Option SignatureHelp)
  deriving DecidableEq, Repr

structure State where
  documents : List (Uri × Document)
  candidates : Option (List Candidate)

/-- What one event comes to. -/
structure Outcome where
  state : State
  answer : Answer
  log : List Record

namespace State

def start : State := ⟨[], none⟩

def document? (s : State) (uri : Uri) : Option Document :=
  (s.documents.find? (·.1 = uri)).map Prod.snd

/-- Forgets a document. -/
def close (s : State) (uri : Uri) : State :=
  { s with documents := s.documents.filter (·.1 ≠ uri) }

/-- Keeps a document in place of an earlier one. -/
def store (s : State) (uri : Uri) (doc : Document) : State :=
  { s with documents := (uri, doc) :: (s.close uri).documents }

end State

/-- The document is one for this server. -/
def accepts (settings : Settings) (uri : Uri) (language : String) : Bool :=
  language = languageId || uri.filePath?.any settings.isShaderFile

/-- How many candidates were built, as it is logged. -/
def builtRecord (candidates : List Candidate) : Record :=
  ⟨.debug, .completion, "built " ++ toString candidates.length ++ " completion candidates"⟩

/-- The candidates, built now if they were not yet. -/
def ready (settings : Settings) (s : State) : List Candidate × State × List Record :=
  match s.candidates with
  | some items => (items, s, [])
  | none =>
    let items := Candidate.ranked settings.registry
    (items, { s with candidates := some items }, [builtRecord items])

def step (settings : Settings) (s : State) : Event → Outcome
  | .opened uri language text =>
    if accepts settings uri language then
      ⟨s.store uri (.ofText text), .nothing, [⟨.debug, .server, "open " ++ uri.text⟩]⟩
    else
      ⟨s, .nothing, [⟨.debug, .server, "ignoring " ++ uri.text ++ " (" ++ language ++ ")"⟩]⟩
  | .changed uri texts =>
    match texts.getLast?, s.document? uri with
    | some text, some _ => ⟨s.store uri (.ofText text), .nothing, []⟩
    | _, _ => ⟨s, .nothing, []⟩
  | .closed uri => ⟨s.close uri, .nothing, []⟩
  | .hover uri pos =>
    ⟨s, .hover ((s.document? uri).bind fun doc => Hover.find settings.registry doc pos), []⟩
  | .completion uri pos =>
    match s.document? uri with
    | none => ⟨s, .completion none, []⟩
    | some doc =>
      let (items, s, log) := ready settings s
      ⟨s, .completion (some (.ofCandidates items doc pos)), log⟩
  | .signatureHelp uri pos =>
    let found := (s.document? uri).bind fun doc =>
      SignatureHelp.find settings.registry settings.lookback doc pos
    ⟨s, .signatureHelp found, []⟩

end Server

end GlslAssist
