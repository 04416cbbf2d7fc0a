import GlslAssist.CommandLine
import GlslAssist.Encoding
import GlslAssist.Log.Filter
import GlslAssist.Server.Connection
import GlslAssist.Text.Padding

/-!
# What a command prints

A command first loads the settings, the file that is named or the nearest one above the working
directory, and then does its work over them. What it comes to is a report: the text for standard
output, warnings about the log filter, the records that it admits, and the error that ended the
command, if one did.
-/

namespace GlslAssist

namespace CommandLine

/-- What stops a command. -/
inductive Failure where
  | settings (file : Path) (e : Settings.LoadError)
  | unreadable (file : Path) (problem : ReadProblem)
  | notOneBased (line column : Nat)
  deriving DecidableEq, Repr

def Failure.message : Failure → String
  | settings file e => "loading '" ++ file.text ++ "': " ++ e.message
  | unreadable file problem => "cannot read '" ++ file.text ++ "': " ++ problem.message
  | notOneBased line column =>
    "line and column are 1-based, got " ++ toString line ++ ":" ++ toString column

structure Report where
  output : String
  warnings : List String
  log : List Record
  failure : Option Failure

/-- What goes to the standard error output, the warnings first. -/
def Report.notes (r : Report) : List String :=
  r.warnings ++ r.log.map Record.printed
    ++ (r.failure.map fun failure => "error: " ++ failure.message).toList

/-- What the program runs in. -/
structure Surroundings where
  files : Files
  directory : Path
  input : List UInt8

/-- The only paths that a command looks at. -/
def pathsOf (directory : Path) (i : Invocation) : List Path :=
  let settings := match i.settingsFile with
    | some name => [Path.ofText name]
    | none => directory.ancestors.map (·.join Settings.fileName)
  match i.command with
  | .hover place | .complete place _ _ | .signature place => Path.ofText place.file :: settings
  | .lsp | .symbols _ _ => settings

/-- Settings and the file that they come from, if any. -/
structure Loaded where
  settings : Settings
  file : Option Path

def load (s : Surroundings) (named : Option String) : Except Failure Loaded :=
  let file := match named with
    | some name => some (Path.ofText name)
    | none => Settings.locate s.files.has s.directory
  match file with
  | none => .ok ⟨.default, none⟩
  | some file =>
    match Settings.load s.files file with
    | .ok settings => .ok ⟨settings, some file⟩
    | .error e => .error (.settings file e)

def loadedRecord (l : Loaded) : Record :=
  match l.file with
  | some file => ⟨.info, .settings, "loaded configuration from " ++ file.text⟩
  | none => ⟨.debug, .settings, "no " ++ Settings.fileName.text ++ " found, using defaults"⟩

/-- The filter that holds: the one from outside if there is one, else the detailed one if asked for,
else that of the settings. Warnings tell of what is left out of it. -/
def filterOf (outer : Option String) (verbose : Bool) (settings : Settings) :
    Log.Filter × List String :=
  Log.Filter.ofText (outer.getD (if verbose then "debug" else settings.logLevel.getD "warn"))

def registryRecord (settings : Settings) : Record :=
  ⟨.debug, .registry, settings.registry.summary⟩

/-- The document and the position that a place means. -/
def locate (s : Surroundings) (place : Place) : Except Failure (Document × Position) :=
  let file := Path.ofText place.file
  match s.files.readText file with
  | .error problem => .error (.unreadable file problem)
  | .ok text =>
    if place.line = 0 ∨ place.column = 0 then .error (.notOneBased place.line place.column)
    else .ok (.ofText text, ⟨place.line - 1, place.column - 1⟩)

/-- Lines as they are printed. -/
def unlines (lines : List String) : String :=
  String.join (lines.map (· ++ "\n"))

/-- What a query prints or logs where it finds nothing. -/
def nothingAt (what : String) (place : Place) : Record :=
  ⟨.info, .query, "no " ++ what ++ " at " ++ toString place.line ++ ":" ++ toString place.column⟩

/-- A table of candidates. Labels are padded to the byte length of the longest, in characters. -/
def candidateLines (items : List Candidate) : List String :=
  let width := (items.map fun c => c.label.utf8ByteSize).foldl max 0
  items.map fun c =>
    Text.padRight width c.label ++ "  " ++ Text.padRight 8 c.kind.space.name ++ "  " ++ c.detail

def symbolLine (s : Symbol) : String :=
  Text.padRight 8 s.space.name ++ "  " ++ s.name

/-- Answers a query at a place. -/
def query (s : Surroundings) (settings : Settings) (place : Place)
    (answer : Document → Position → String × List Record) : Report :=
  match locate s place with
  | .error failure => ⟨"", [], [], some failure⟩
  | .ok (doc, pos) =>
    let (output, log) := answer doc pos
    ⟨output, [], registryRecord settings :: log, none⟩

def hoverAnswer (settings : Settings) (place : Place) (doc : Document) (pos : Position) :
    String × List Record :=
  match Hover.find settings.registry doc pos with
  | some h => (unlines [h.markdown], [])
  | none => ("", [nothingAt "hover" place])

def signatureAnswer (settings : Settings) (place : Place) (doc : Document) (pos : Position) :
    String × List Record :=
  match SignatureHelp.find settings.registry settings.lookback doc pos with
  | some help => (unlines help.listing, [])
  | none => ("", [nothingAt "enclosing call" place])

def completeAnswer (settings : Settings) (json typedOnly : Bool) (doc : Document) (pos : Position) :
    String × List Record :=
  let candidates := Candidate.ranked settings.registry
  let completion := Completion.ofCandidates candidates doc pos
  let items := if typedOnly then completion.narrowed else completion.items
  let built := [Server.builtRecord candidates]
  if json then (unlines [(completion.toJson items).pretty], built)
  else if items.isEmpty then
    ("", built ++ [⟨.info, .query, "no candidates match '" ++ completion.typed ++ "'"⟩])
  else (unlines (candidateLines items), built)

/-- Lists the symbols of one namespace or of all. -/
def listSymbols (settings : Settings) (space : Option Namespace) (json : Bool) : Report :=
  let symbols := match space with
    | some space => settings.registry.table space
    | none => settings.registry.symbols
  let log : List Record :=
    [registryRecord settings, ⟨.debug, .symbols, toString symbols.length ++ " symbols"⟩]
  let output :=
    if json then unlines [(Json.arr (symbols.map Symbol.toJson)).pretty]
    else unlines (symbols.map symbolLine)
  ⟨output, [], log, none⟩

/-- Serves a client over standard input and output. -/
def serve (s : Surroundings) (settings : Settings) : Report :=
  let (written, log) := Connection.ofStream settings s.input
  ⟨String.join (written.map fun v => Server.Frame.enclose v.compact),
    [], registryRecord settings :: log, none⟩

def perform (s : Surroundings) (settings : Settings) : Command → Report
  | .lsp => serve s settings
  | .hover place => query s settings place (hoverAnswer settings place)
  | .complete place json typedOnly =>
    query s settings place (completeAnswer settings json typedOnly)
  | .signature place => query s settings place (signatureAnswer settings place)
  | .symbols space json => listSymbols settings space json

/-- Runs a command, with a log filter from outside if there is one. Nothing is logged before the
settings are known. -/
def run (s : Surroundings) (i : Invocation) (outer : Option String := none) : Report :=
  match load s i.settingsFile with
  | .error failure => ⟨"", [], [], some failure⟩
  | .ok loaded =>
    let report := perform s loaded.settings i.command
    let (filter, warnings) := filterOf outer i.verbose loaded.settings
    ⟨report.output, warnings, (loadedRecord loaded :: report.log).filter filter.admits,
      report.failure⟩

end CommandLine

end GlslAssist
