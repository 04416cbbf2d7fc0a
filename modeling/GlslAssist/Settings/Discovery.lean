import GlslAssist.Files
import GlslAssist.Settings.Decoding

/-!
# Finding the settings of a directory

The settings file of a directory is the nearest one on the way up from it, parent by parent. Only
that one counts: if it cannot be used, none above it is tried.
-/

namespace GlslAssist.Settings

def fileName : Path := Path.ofText "shaderlab.toml"

/-- The nearest settings file of a directory, given what there is. -/
def locate (has : Path → Bool) (directory : Path) : Option Path :=
  if has (directory.join fileName) then some (directory.join fileName)
  else
    match _ : directory.parent? with
    | none => none
    | some up => locate has up
termination_by directory.length
decreasing_by exact Path.parent?_length_lt ‹_›

/-- Why a settings file cannot be used. -/
inductive LoadError where
  | unreadable (file : Path) (problem : ReadProblem)
  | invalid (e : ReadError)
  deriving DecidableEq, Repr

/-- The error with its causes. -/
def LoadError.message : LoadError → String
  | unreadable file problem =>
    "cannot read '" ++ file.text ++ "': " ++ problem.message ++ ": " ++ problem.message
  | invalid .malformed => "invalid shaderlab.toml: TOML parse error"
  | invalid (.mismatch m) => "invalid shaderlab.toml: TOML parse error: " ++ m.message
  | invalid (.fault f) => f.message

def load (files : Files) (file : Path) : Except LoadError Settings :=
  match files.readText file with
  | .error problem => .error (.unreadable file problem)
  | .ok content => (ofText content.toList).mapError .invalid

/-- The settings that hold in a directory. -/
def discover (files : Files) (directory : Path) : Except LoadError Settings :=
  match locate files.has directory with
  | none => .ok default
  | some file => load files file

/-- The path ends in one of the extensions. -/
def isShaderFile (s : Settings) (p : Path) : Bool :=
  p.extension?.any fun ending => s.extensions.any fun name => Path.ofText name == ending

end GlslAssist.Settings
