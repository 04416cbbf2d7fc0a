import GlslAssist.Text.Plain

/-!
# Log records

What the program reports about its work, each record with a level and the part of the program that
it comes from. Levels are in the order of detail.
-/

namespace GlslAssist

namespace Log

inductive Level where
  | error
  | warn
  | info
  | debug
  | trace
  deriving DecidableEq, Repr

namespace Level

def all : List Level :=
  [error, warn, info, debug, trace]

def name : Level → String
  | error => "ERROR"
  | warn => "WARN"
  | info => "INFO"
  | debug => "DEBUG"
  | trace => "TRACE"

/-- How much detail a level adds. -/
def detail : Level → Nat
  | error => 1
  | warn => 2
  | info => 3
  | debug => 4
  | trace => 5

end Level

/-- The parts of the program that report. -/
inductive Topic where
  | settings
  | query
  | symbols
  | registry
  | completion
  | server
  deriving DecidableEq, Repr

/-- The name by which a filter chooses a part of the program. -/
def Topic.target : Topic → String
  | settings => "shaderlab::cli"
  | query => "shaderlab::cli::query"
  | symbols => "shaderlab::cli::symbols"
  | registry => "shaderlab::glsl::registry"
  | completion => "shaderlab::lsp::completion"
  | server => "shaderlab::lsp"

end Log

/-- One line of the log. -/
structure Record where
  level : Log.Level
  topic : Log.Topic
  text : String
  deriving DecidableEq, Repr

def Record.line (r : Record) : String :=
  r.level.name ++ " " ++ r.text

/-- The line as it is printed, without what would steer a terminal. -/
def Record.printed (r : Record) : String :=
  Text.plain r.line

end GlslAssist
