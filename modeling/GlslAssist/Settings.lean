import GlslAssist.CallSite
import GlslAssist.Registry
import GlslAssist.Text.Blank

/-!
# Settings

What a project may choose: how much is logged, which file extensions are shaders, how far above the
cursor a call is looked for, and the uniforms that its host sets. Settings are sound if the lookback
is not zero and the uniforms have names, no two the same; `firstFault?` tells the first way in which
they are not.
-/

namespace GlslAssist

structure Settings where
  logLevel : Option String
  extensions : List String
  lookback : Nat
  uniforms : List Variable
  deriving DecidableEq, Repr

namespace Settings

/-- What holds for everything that is not set. -/
def default : Settings :=
  ⟨none, ["glsl", "frag", "vert", "fs", "vs"], CallSite.defaultLookback, []⟩

/-- A value that fits its shape and still cannot be meant. -/
inductive Fault where
  | zeroLookback
  | emptyName
  | repeatedName (name : String)
  deriving DecidableEq, Repr

def Fault.message : Fault → String
  | zeroLookback => "signature_help.lookback_lines must be at least 1"
  | emptyName => "uniform declaration has an empty name"
  | repeatedName name => "uniform '" ++ name ++ "' is declared more than once"

/-- The first uniform without a name, or with one that was seen before. -/
def uniformFault? : List String → List Variable → Option Fault
  | _, [] => none
  | seen, u :: rest =>
    if Text.trim u.name.toList = [] then some .emptyName
    else if u.name ∈ seen then some (.repeatedName u.name)
    else uniformFault? (u.name :: seen) rest

def firstFault? (s : Settings) : Option Fault :=
  if s.lookback = 0 then some .zeroLookback else uniformFault? [] s.uniforms

/-- The language's tables with the uniforms of the project. -/
def registry (s : Settings) : Registry :=
  ⟨s.uniforms⟩

end Settings

end GlslAssist
