import GlslAssist.Log
import GlslAssist.Pattern.Expression
import GlslAssist.Text.Blank

/-!
# Log filters

A filter is written as directives with commas between them, such as `warn,shaderlab::lsp=debug`. A
level alone holds for everything, a name alone lets everything of that name through, and a name with
a level lets through what is not more detailed. A record goes by the directive with the longest name
that its target begins with. After a slash may stand a regular expression that has to match
somewhere in the text of every record.

What makes no sense is left out, and a warning tells of it. Where no directive is left, only errors
are let through.
-/

namespace GlslAssist.Log

/-- Targets that begin with a name are let through up to some detail. A directive without a name is
for every target. -/
structure Directive where
  name : Option (List Char)
  detail : Nat
  deriving DecidableEq, Repr

structure Filter where
  directives : List Directive
  pattern : Option Pattern
  deriving DecidableEq, Repr

/-- The detail that a level stands for, written in letters of either case. -/
def detail? (name : List Char) : Option Nat :=
  let lower := name.map Char.toLower
  if lower = "off".toList then some 0
  else (Level.all.find? fun level => level.name.toList.map Char.toLower = lower).map Level.detail

/-- The line that tells of something left out. -/
def warning (problem : String) : String :=
  "warning: " ++ problem ++ ", ignoring it"

def badSpec (text : List Char) : String :=
  warning ("invalid logging spec '" ++ String.ofList text ++ "'")

namespace Directive

def most : Nat := Level.trace.detail

/-- Reads one directive, its outer blanks being dropped, or says what is wrong with it. -/
def ofText (text : List Char) : Except String Directive :=
  match text.splitOn '=' with
  | [single] =>
    match detail? single with
    | some detail => .ok ⟨none, detail⟩
    | none => .ok ⟨some single, most⟩
  | [name, level] =>
    match Text.trim level, detail? (Text.trim level) with
    | [], _ => .ok ⟨some name, most⟩
    | _, some detail => .ok ⟨some name, detail⟩
    | level, none => .error (badSpec level)
  | _ => .error (badSpec text)

/-- Adds a directive, in place of an earlier one for the same name. -/
def insert (d : Directive) : List Directive → List Directive
  | [] => [d]
  | e :: rest => if e.name = d.name then d :: rest else e :: insert d rest

/-- How much of a target the directive is about. -/
def reach (d : Directive) : Nat :=
  (d.name.map List.length).getD 0

def fits (d : Directive) (target : List Char) : Bool :=
  d.name.all fun name => name.isPrefixOf target

end Directive

namespace Filter

/-- The directives of a list, and the warnings about those that make no sense. -/
def directivesOf (list : List Char) : List Directive × List String :=
  (((list.splitOn ',').map Text.trim).filter (· ≠ [])).foldl (fun (ds, warnings) text =>
    match Directive.ofText text with
    | .ok d => (d.insert ds, warnings)
    | .error e => (ds, warnings ++ [e])) ([], [])

/-- Reads a filter, with the warnings about what is left out of it. -/
def ofText (text : String) : Filter × List String :=
  match text.toList.splitOn '/' with
  | [list] =>
    let (directives, warnings) := directivesOf list
    (⟨directives, none⟩, warnings)
  | [list, expression] =>
    let (directives, warnings) := directivesOf list
    match Pattern.ofText (String.ofList expression) with
    | .ok pattern => (⟨directives, some pattern⟩, warnings)
    | .error e => (⟨directives, none⟩, warnings ++ e.report)
  | _ => (⟨[], none⟩, [warning ("invalid logging spec '" ++ text ++ "' (too many '/'s)")])

/-- The directive with the longest name that fits a target, the later one of two alike. -/
def choose (target : List Char) (directives : List Directive) : Option Directive :=
  directives.foldl (fun best d =>
    if d.fits target then
      match best with
      | none => some d
      | some b => if b.reach ≤ d.reach then some d else best
    else best) none

/-- The record is let through. -/
def admits (f : Filter) (r : Record) : Bool :=
  let detail :=
    if f.directives.isEmpty then Level.error.detail
    else ((choose r.topic.target.toList f.directives).map Directive.detail).getD 0
  r.level.detail ≤ detail && f.pattern.all fun pattern => pattern.occursIn r.text

end Filter

end GlslAssist.Log
