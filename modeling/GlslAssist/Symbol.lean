/-!
# Symbols

What the language and its host offer to a shader, in six namespaces. A namespace has a short name,
by which people ask for it, and a tag, by which descriptors are marked when they are written out.
-/

namespace GlslAssist

/-- The six independent namespaces. -/
inductive Namespace where
  | function
  | type
  | builtin
  | uniform
  | keyword
  | snippet
  deriving DecidableEq, Repr

namespace Namespace

/-- Every namespace, in the order of listings. -/
def all : List Namespace :=
  [.function, .type, .builtin, .uniform, .keyword, .snippet]

/-- The order in which a bare name is looked up. Snippets are never meant by a name. -/
def precedence : List Namespace :=
  [.function, .builtin, .uniform, .type, .keyword]

def name : Namespace → String
  | .function => "function"
  | .type => "type"
  | .builtin => "builtin"
  | .uniform => "uniform"
  | .keyword => "keyword"
  | .snippet => "snippet"

def tag : Namespace → String
  | .builtin => "builtin_variable"
  | n => n.name

/-- Reads a short name, its plural, or `variable` for the built-in ones. -/
def ofName? : String → Option Namespace
  | "function" | "functions" => some .function
  | "type" | "types" => some .type
  | "builtin" | "builtins" | "variable" => some .builtin
  | "uniform" | "uniforms" => some .uniform
  | "keyword" | "keywords" => some .keyword
  | "snippet" | "snippets" => some .snippet
  | _ => none

theorem ofName?_name (n : Namespace) : ofName? n.name = some n := by
  cases n <;> rfl

end Namespace

/-- One parameter of an overload, such as `vec3 x`. -/
structure Parameter where
  label : String
  documentation : Option String
  deriving DecidableEq, Repr

/-- One callable shape of a function. -/
structure Signature where
  label : String
  parameters : List Parameter
  deriving DecidableEq, Repr

/-- The signature `ret name(params)`. -/
def Signature.make (ret name : String) (params : List String) : Signature :=
  ⟨ret ++ " " ++ name ++ "(" ++ String.intercalate ", " params ++ ")",
    params.map fun label => ⟨label, none⟩⟩

structure FunctionEntry where
  name : String
  signatures : List Signature
  description : String
  category : String
  deriving DecidableEq, Repr

structure TypeEntry where
  name : String
  description : String
  deriving DecidableEq, Repr

/-- A variable of the language, or a uniform that the host sets. -/
structure Variable where
  name : String
  type : String
  description : String
  deriving DecidableEq, Repr

structure KeywordEntry where
  name : String
  description : String
  deriving DecidableEq, Repr

/-- A template; `insertText` marks tab stops as `$0` and the like. -/
structure SnippetEntry where
  label : String
  insertText : String
  description : String
  deriving DecidableEq, Repr

inductive Symbol where
  | function (entry : FunctionEntry)
  | type (entry : TypeEntry)
  | builtin (entry : Variable)
  | uniform (entry : Variable)
  | keyword (entry : KeywordEntry)
  | snippet (entry : SnippetEntry)
  deriving DecidableEq, Repr

namespace Symbol

/-- The key within the symbol's namespace. -/
def name : Symbol → String
  | function f => f.name
  | type t => t.name
  | builtin v => v.name
  | uniform u => u.name
  | keyword k => k.name
  | snippet s => s.label

def space : Symbol → Namespace
  | function _ => .function
  | type _ => .type
  | builtin _ => .builtin
  | uniform _ => .uniform
  | keyword _ => .keyword
  | snippet _ => .snippet

def description : Symbol → String
  | function f => f.description
  | type t => t.description
  | builtin v => v.description
  | uniform u => u.description
  | keyword k => k.description
  | snippet s => s.description

end Symbol

end GlslAssist
