import GlslAssist.Decimal.Digits
import GlslAssist.Symbol

/-!
# The command line

Arguments are read from left to right, first those of the program, then those of the command. Each
may have options, an option with a value taking it from the same argument or from the next one.
After two hyphens nothing is an option any more.

A value that stands in an argument of its own is looked at when the next thing is understood, so an
argument that cannot be understood is refused before it. Options that belong to the program may also
stand after the command, once on either side.
-/

namespace GlslAssist

namespace CommandLine

/-- A place in a file, with lines and columns counted from one. -/
structure Place where
  file : String
  line : Nat
  column : Nat
  deriving DecidableEq, Repr

inductive Command where
  | lsp
  | hover (place : Place)
  | complete (place : Place) (json typedOnly : Bool)
  | signature (place : Place)
  | symbols (space : Option Namespace) (json : Bool)
  deriving DecidableEq, Repr

structure Invocation where
  settingsFile : Option String
  verbose : Bool
  command : Command
  deriving DecidableEq, Repr

/-- Why arguments cannot be used. -/
inductive UsageError where
  | unknownNamespace (name : String)
  | unexpected (argument : String)
  | repeated (option : String)
  | badValue (name value : String)
  | missingValue (name : String)
  | missingCommand
  | missingArguments
  deriving DecidableEq, Repr

def UsageError.message : UsageError → String
  | unknownNamespace name =>
    "unknown namespace '" ++ name ++ "' (expected one of: "
      ++ String.intercalate ", " (Namespace.all.map Namespace.name) ++ ")"
  | unexpected argument => "unexpected argument '" ++ argument ++ "'"
  | repeated option => "option '" ++ option ++ "' is given more than once"
  | badValue name value => "invalid value '" ++ value ++ "' for " ++ name
  | missingValue name => "a value is required for " ++ name
  | missingCommand => "a command is required"
  | missingArguments => "FILE, LINE and COL are required"

/-- Why reading ends before the command is known. -/
inductive Stop where
  | wrong (e : UsageError)
  | help
  | version
  deriving DecidableEq, Repr

abbrev Reading (α : Type) := Except Stop α

inductive Flag where
  | config
  | verbose
  | help
  | version
  | space
  | json
  | typed
  deriving DecidableEq, Repr

namespace Flag

def longName : Flag → String
  | config => "config"
  | verbose => "verbose"
  | help => "help"
  | version => "version"
  | space => "namespace"
  | json => "json"
  | typed => "prefix"

def letter? : Flag → Option Char
  | verbose => some 'v'
  | help => some 'h'
  | version => some 'V'
  | space => some 'n'
  | config | json | typed => none

def takesValue : Flag → Bool
  | config | space => true
  | _ => false

/-- The flags of the program itself. -/
def ofProgram : List Flag :=
  [config, verbose, help, version]

end Flag

/-! ## Scopes -/

/-- What may be given, to the program or to a command. -/
structure Scope where
  flags : List Flag
  /-- The names of the values that are given without an option. -/
  slots : List String
  commands : List String

def programScope : Scope :=
  ⟨Flag.ofProgram, [], ["lsp", "hover", "complete", "signature", "symbols", "help"]⟩

def placeSlots : List String :=
  ["FILE", "LINE", "COL"]

/-- The scope of a command. -/
def commandScope (name : String) : Scope :=
  let shared := [Flag.config, Flag.verbose, Flag.help]
  match name with
  | "hover" | "signature" => ⟨shared, placeSlots, []⟩
  | "complete" => ⟨shared ++ [.json, .typed], placeSlots, []⟩
  | "symbols" => ⟨shared ++ [.space, .json], [], []⟩
  | _ => ⟨shared, [], []⟩

/-- What a value is for. -/
inductive Target where
  | flag (f : Flag)
  | slot (name : String)
  deriving DecidableEq, Repr

def Target.name : Target → String
  | flag f => "--" ++ f.longName
  | slot name => name

/-- What was read of one scope. -/
structure Given where
  flags : List (Flag × String)
  values : List String
  /-- An option whose value has to come next. -/
  awaiting : Option Flag
  /-- A value that was not looked at yet. -/
  unchecked : Option (Target × String)

namespace Given

def start : Given := ⟨[], [], none, none⟩

/-- A decimal number of thirty-two bits, perhaps with a sign. -/
def number? (s : String) : Option Nat :=
  (Decimal.integer? s.toList).bind (Decimal.below? Decimal.wordLimit)

/-- What is wrong with a value. -/
def problem? (target : Target) (value : String) : Option UsageError :=
  match target with
  | .flag .space =>
    if (Namespace.ofName? value).isSome then none else some (.unknownNamespace value)
  | .flag .config | .slot "FILE" => if value = "" then some (.badValue target.name value) else none
  | .slot _ => if (number? value).isSome then none else some (.badValue target.name value)
  | .flag _ => none

/-- Takes an option with its value, the empty one for an option that has none. -/
def accept (g : Given) (f : Flag) (value : String) : Reading Given :=
  if g.flags.any (·.1 = f) then .error (.wrong (.repeated (Target.flag f).name))
  else
    match problem? (.flag f) value with
    | some e => .error (.wrong e)
    | none => .ok { g with flags := g.flags ++ [(f, value)] }

/-- Looks at the value that was not looked at yet. -/
def settle (g : Given) : Reading Given :=
  match g.awaiting, g.unchecked with
  | some f, _ => .error (.wrong (.missingValue (Target.flag f).name))
  | none, none => .ok g
  | none, some (.flag f, value) => { g with unchecked := none }.accept f value
  | none, some (.slot name, value) =>
    match problem? (.slot name) value with
    | some e => .error (.wrong e)
    | none => .ok { g with values := g.values ++ [value], unchecked := none }

/-- Takes an option that has no value. -/
def raise (g : Given) (f : Flag) : Reading Given :=
  g.settle.bind fun g =>
    match f with
    | .help => .error .help
    | .version => .error .version
    | f => g.accept f ""

/-- Takes an option with a value in the same argument. -/
def attach (g : Given) (f : Flag) (value : String) : Reading Given :=
  g.settle.bind fun g => g.accept f value

/-- Takes an option whose value is to come. -/
def await (g : Given) (f : Flag) : Reading Given :=
  g.settle.map fun g => { g with awaiting := some f }

/-- Takes an argument that is no option. -/
def place (scope : Scope) (g : Given) (argument : String) : Reading Given :=
  let taken := g.values.length + (match g.unchecked with
    | some (.slot _, _) => 1
    | _ => 0)
  match scope.slots[taken]? with
  | none => .error (.wrong (.unexpected argument))
  | some name => g.settle.map fun g => { g with unchecked := some (.slot name, argument) }

/-- Takes an argument that begins with two hyphens. -/
def long (scope : Scope) (g : Given) (argument : String) : Reading Given :=
  let body := argument.toList.drop 2
  let name := String.ofList (body.takeWhile (· ≠ '='))
  match scope.flags.find? (·.longName = name), body.dropWhile (· ≠ '=') with
  | none, _ => .error (.wrong (.unexpected argument))
  | some f, [] => if f.takesValue then g.await f else g.raise f
  | some f, _ :: value =>
    if f.takesValue then g.attach f (String.ofList value)
    else .error (.wrong (.unexpected argument))

/-- Takes the letters after a single hyphen. -/
def short (scope : Scope) (g : Given) (argument : String) : List Char → Reading Given
  | [] => .ok g
  | c :: rest =>
    match scope.flags.find? (·.letter? = some c) with
    | none => .error (.wrong (.unexpected argument))
    | some f =>
      if !f.takesValue then (g.raise f).bind fun g => short scope g argument rest
      else
        match rest with
        | [] => g.await f
        | '=' :: value => g.attach f (String.ofList value)
        | value => g.attach f (String.ofList value)

end Given

/-- What an argument looks like. -/
inductive Look where
  | separator
  | long
  | short (letters : List Char)
  | plain

def lookOf (argument : String) : Look :=
  match argument.toList with
  | ['-', '-'] => .separator
  | '-' :: '-' :: _ => .long
  | '-' :: c :: letters => .short (c :: letters)
  | _ => .plain

/-- Reads the arguments of a scope up to a command, and gives the command with all that follows it.
-/
def readScope (scope : Scope) : Bool → Given → List String → Reading (Given × List String)
  | _, g, [] => .ok (g, [])
  | true, g, argument :: rest =>
    (g.place scope argument).bind fun g => readScope scope true g rest
  | false, g, argument :: rest =>
    if g.awaiting = none ∧ argument ∈ scope.commands then .ok (g, argument :: rest)
    else
      match lookOf argument, g.awaiting with
      | .separator, _ => readScope scope true g rest
      | .long, _ => (g.long scope argument).bind fun g => readScope scope false g rest
      | .short letters, _ =>
        (g.short scope argument letters).bind fun g => readScope scope false g rest
      | .plain, some f =>
        let g := { g with awaiting := none, unchecked := some (.flag f, argument) }
        readScope scope false g rest
      | .plain, none => (g.place scope argument).bind fun g => readScope scope false g rest

/-! ## Commands -/

def Given.has (g : Given) (f : Flag) : Bool :=
  g.flags.any (·.1 = f)

def Given.value? (g : Given) (f : Flag) : Option String :=
  (g.flags.find? (·.1 = f)).map Prod.snd

def Given.place? (g : Given) : Reading Place :=
  match g.values with
  | [file, line, column] =>
    match Given.number? line, Given.number? column with
    | some line, some column => .ok ⟨file, line, column⟩
    | _, _ => .error (.wrong .missingArguments)
  | _ => .error (.wrong .missingArguments)

/-- The command of that name, with what was given to it. -/
def commandOf (name : String) (g : Given) : Reading Command :=
  match name with
  | "lsp" => .ok .lsp
  | "hover" => g.place?.map .hover
  | "complete" => g.place?.map fun place => .complete place (g.has .json) (g.has .typed)
  | "signature" => g.place?.map .signature
  | "symbols" => .ok (.symbols ((g.value? .space).bind Namespace.ofName?) (g.has .json))
  | _ => .error .help

/-- Reads the arguments after a command. The command for help takes the name of another one. -/
def readCommand (name : String) (arguments : List String) : Reading (Given × Command) :=
  if name = "help" then
    match arguments with
    | [] => .error .help
    | [topic] =>
      if topic ∈ programScope.commands then .error .help else .error (.wrong (.unexpected topic))
    | _ :: extra :: _ => .error (.wrong (.unexpected extra))
  else
    (readScope (commandScope name) false .start arguments).bind fun (g, _) =>
      g.settle.bind fun g => (commandOf name g).map fun command => (g, command)

def versionText : String := "shaderlab 0.1.0\n"

def helpText : String :=
  String.intercalate "\n"
    ["GLSL completion, hover, and signature help", "",
      "Usage: shaderlab [-v|--verbose] [--config PATH] COMMAND", "",
      "  lsp                                       serve an editor over stdio",
      "  hover FILE LINE COL                       print the documentation at a position",
      "  complete FILE LINE COL [--json] [--prefix]  print completion candidates",
      "  signature FILE LINE COL                   print the overloads of the enclosing call",
      "  symbols [-n|--namespace NS] [--json]      list the known symbols", ""]

/-- Reads all arguments. -/
def ofArguments (arguments : List String) : Reading Invocation :=
  (readScope programScope false .start arguments).bind fun (g, rest) =>
    match rest with
    | [] => g.settle.bind fun _ => .error (.wrong .missingCommand)
    | name :: rest =>
      (readCommand name rest).bind fun (inner, command) =>
        g.settle.map fun g =>
          ⟨(inner.value? .config).or (g.value? .config), g.has .verbose || inner.has .verbose,
            command⟩

end CommandLine

end GlslAssist
