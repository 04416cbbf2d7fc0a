import GlslAssist.Toml.Statement

/-!
# The tree of a TOML document

Statements are put into one tree. A table is made by its header, by a longer header that passes
through it, or by dotted keys, and only the second kind can still be given a header of its own; it
then moves behind its neighbours, since a table takes its place when it is complete.

A path descends into the last element of an array of tables. Dotted keys never reach a table that
has a header, nor do they add to one that a longer header made (`Scope.assign`).
-/

namespace GlslAssist.Toml

/-- How a table came to be. -/
inductive Origin where
  | header
  | passed
  | dotted
  deriving DecidableEq, Repr

inductive Node where
  | value (v : Value)
  | table (origin : Origin) (entries : List (String × Node))
  | tables (elements : List (List (String × Node)))
  deriving Inhabited

abbrev Nodes := List (String × Node)

namespace Node

mutual

def toValue : Node → Value
  | value v => v
  | table _ entries => .table (toEntries entries)
  | tables elements => .array (toElements elements)

def toEntries : List (String × Node) → Entries
  | [] => []
  | (key, node) :: rest => (key, toValue node) :: toEntries rest

def toElements : List (List (String × Node)) → List Value
  | [] => []
  | entries :: rest => .table (toEntries entries) :: toElements rest

end

def find? (key : String) (nodes : Nodes) : Option Node :=
  (nodes.find? (·.1 == key)).map Prod.snd

/-- Puts a node in the place of the one with that key, or at the end. -/
def put (key : String) (node : Node) (nodes : Nodes) : Nodes :=
  if nodes.any (·.1 == key) then nodes.map fun e => if e.1 == key then (key, node) else e
  else nodes ++ [(key, node)]

def erase (key : String) (nodes : Nodes) : Nodes :=
  nodes.filter (·.1 != key)

/-- Changes the table at the end of a path, which is made where it is missing. The change is told
whether dotted keys made the table. -/
def change {α : Type} (dotted : Bool) (f : Bool → Nodes → Option (Nodes × α)) :
    List String → Bool → Nodes → Option (Nodes × α)
  | [], here, nodes => f here nodes
  | key :: path, _, nodes =>
    match find? key nodes with
    | none =>
      (change dotted f path dotted []).map fun (inner, a) =>
        (put key (table (if dotted then .dotted else .passed) inner) nodes, a)
    | some (value _) => none
    | some (table origin inner) =>
      if dotted && origin == .header then none
      else (change dotted f path (origin == .dotted) inner).map fun (inner, a) =>
        (put key (table origin inner) nodes, a)
    | some (tables elements) =>
      match elements.getLast? with
      | none => none
      | some last =>
        (change dotted f path false last).map fun (last, a) =>
          (put key (tables (elements.dropLast ++ [last])) nodes, a)

end Node

/-- What is read so far: the finished tree, and the table whose lines are being read. -/
structure Scope where
  root : Nodes
  path : List String
  isElement : Bool
  current : Nodes

namespace Scope

open Node

def start : Scope := ⟨[], [], false, []⟩

/-- Puts a value into the current table. -/
def assign (scope : Scope) (path : List String) (v : Value) : Option Scope :=
  match path.getLast? with
  | none => none
  | some key =>
    let owner := path.dropLast
    let insert (isDotted : Bool) (nodes : Nodes) : Option (Nodes × Unit) :=
      if isDotted == owner.isEmpty || nodes.any (·.1 == key) then none
      else some (nodes ++ [(key, Node.value v)], ())
    (change true insert owner false scope.current).map fun (current, _) =>
      ⟨scope.root, scope.path, scope.isElement, current⟩

/-- Puts the current table into the tree. -/
def finish (scope : Scope) : Option Nodes :=
  match scope.path.getLast? with
  | none => some scope.current
  | some key =>
    let place (_ : Bool) (nodes : Nodes) : Option (Nodes × Unit) :=
      match find? key nodes with
      | none =>
        let node := if scope.isElement then tables [scope.current] else table .header scope.current
        some (nodes ++ [(key, node)], ())
      | some (tables elements) =>
        if scope.isElement then some (put key (tables (elements ++ [scope.current])) nodes, ())
        else none
      | some _ => none
    (change false place scope.path.dropLast false scope.root).map Prod.fst

/-- Begins the table of a header. One that a longer header made keeps its parts. -/
def openTable (scope : Scope) (path : List String) : Option Scope :=
  match path.getLast?, scope.finish with
  | some key, some root =>
    let take (_ : Bool) (nodes : Nodes) : Option (Nodes × Nodes) :=
      match find? key nodes with
      | none => some (nodes, [])
      | some (table .passed inner) => some (erase key nodes, inner)
      | some _ => none
    (change false take path.dropLast false root).map fun (root, current) =>
      ⟨root, path, false, current⟩
  | _, _ => none

/-- Begins a further element of an array of tables. -/
def openElement (scope : Scope) (path : List String) : Option Scope :=
  match path.getLast?, scope.finish with
  | some key, some root =>
    let reserve (_ : Bool) (nodes : Nodes) : Option (Nodes × Unit) :=
      match find? key nodes with
      | none => some (nodes ++ [(key, tables [])], ())
      | some (tables _) => some (nodes, ())
      | some _ => none
    (change false reserve path.dropLast false root).map fun (root, _) => ⟨root, path, true, []⟩
  | _, _ => none

def step (scope : Scope) : Statement → Option Scope
  | .pair path v => scope.assign path v
  | .table path => scope.openTable path
  | .element path => scope.openElement path

end Scope

/-- The entries of a document, or nothing if it is not well formed. -/
def read (text : List Char) : Option Entries :=
  (statements? text).bind fun statements =>
    (statements.foldlM Scope.step Scope.start).bind fun scope =>
      scope.finish.map Node.toEntries

end GlslAssist.Toml
