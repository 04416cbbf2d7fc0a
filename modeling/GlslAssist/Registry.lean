import GlslAssist.Symbol.Functions
import GlslAssist.Symbol.Types
import GlslAssist.Symbol.Variables
import GlslAssist.Symbol.Keywords

/-!
# The registry

A registry is the tables of the language with the project's own uniforms after the canvas's. Tables
keep the order of declaration. Where a name occurs twice in one namespace the table lists both, and
a lookup finds the later one.
-/

namespace GlslAssist

/-- Given by the uniforms that a project adds. -/
structure Registry where
  extra : List Variable
  deriving DecidableEq, Repr

namespace Registry

def builtin : Registry := ⟨[]⟩

def uniforms (r : Registry) : List Variable :=
  Symbol.canvasUniforms ++ r.extra

/-- Every symbol of one namespace, in the order of declaration. -/
def table (r : Registry) : Namespace → List Symbol
  | .function => Symbol.functions.map .function
  | .type => Symbol.types.map .type
  | .builtin => Symbol.builtinVariables.map .builtin
  | .uniform => r.uniforms.map .uniform
  | .keyword => Symbol.keywords.map .keyword
  | .snippet => Symbol.snippets.map .snippet

def symbols (r : Registry) : List Symbol :=
  Namespace.all.flatMap r.table

/-- The last entry of a namespace with that name. -/
def lookup (r : Registry) (space : Namespace) (name : String) : Option Symbol :=
  (r.table space).findRev? (·.name == name)

/-- What a bare name means: the first namespace in the order of precedence that has it. -/
def resolve (r : Registry) (name : String) : Option Symbol :=
  Namespace.precedence.findSome? (r.lookup · name)

/-- The last function entry with that name. -/
def function? (_ : Registry) (name : String) : Option FunctionEntry :=
  Symbol.functions.findRev? (·.name == name)

def uniform? (r : Registry) (name : String) : Option Variable :=
  r.uniforms.findRev? (·.name == name)

/-- The number of entries of each namespace, as it is logged. -/
def summary (r : Registry) : String :=
  let count (space : Namespace) := toString (r.table space).length
  "symbol registry: " ++ count .function ++ " functions, " ++ count .type ++ " types, "
    ++ count .builtin ++ " builtins, " ++ count .uniform ++ " uniforms, " ++ count .keyword
    ++ " keywords, " ++ count .snippet ++ " snippets"

end Registry

end GlslAssist
