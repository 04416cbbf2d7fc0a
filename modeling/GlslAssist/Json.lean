import GlslAssist.Decimal.Shortest
import GlslAssist.Text.Hex

/-!
# JSON values and their text

Objects are lists of fields in the order in which they were declared. The compact form has no
blanks; the pretty form indents by two spaces. `sorted` puts the fields of every object in the order
of their names, for answers whose order is not given by a declaration.
-/

namespace GlslAssist

inductive Json where
  | null
  | bool (b : Bool)
  | int (n : Int)
  | float (x : Decimal.Binary64)
  | str (s : String)
  | arr (items : List Json)
  | obj (fields : List (String × Json))
  deriving Repr, Inhabited

namespace Json

open Text (hexDigit)

/-- A character inside quotes. Control characters without a letter of their own are written by
number; all others above them stand for themselves. -/
def escape (c : Char) : List Char :=
  match c with
  | '"' => ['\\', '"']
  | '\\' => ['\\', '\\']
  | '\n' => ['\\', 'n']
  | '\r' => ['\\', 'r']
  | '\t' => ['\\', 't']
  | c =>
    if c.toNat = 0x08 then ['\\', 'b']
    else if c.toNat = 0x0C then ['\\', 'f']
    else if c.toNat < 0x20 then
      ['\\', 'u', '0', '0', hexDigit (c.toNat / 16), hexDigit (c.toNat % 16)]
    else [c]

def quote (s : String) : String :=
  "\"" ++ String.ofList (s.toList.flatMap escape) ++ "\""

/-- The text of a value without parts. -/
def scalar : Json → String
  | null => "null"
  | bool b => if b then "true" else "false"
  | int n => toString n
  | float x => x.text
  | str s => quote s
  | arr _ => "[]"
  | obj _ => "\x7b\x7d"

mutual

def compact : Json → String
  | arr items => "[" ++ compactItems items ++ "]"
  | obj fields => "\x7b" ++ compactFields fields ++ "\x7d"
  | v => scalar v

def compactItems : List Json → String
  | [] => ""
  | [v] => compact v
  | v :: vs => compact v ++ "," ++ compactItems vs

def compactFields : List (String × Json) → String
  | [] => ""
  | [(key, v)] => quote key ++ ":" ++ compact v
  | (key, v) :: rest => quote key ++ ":" ++ compact v ++ "," ++ compactFields rest

end

/-- The start of a line at some depth of nesting. -/
def lineStart (depth : Nat) : String :=
  "\n" ++ String.ofList (List.replicate (2 * depth) ' ')

mutual

/-- The indented form of a value that stands at some depth of nesting. -/
def prettyAt (depth : Nat) : Json → String
  | arr [] => "[]"
  | obj [] => "\x7b\x7d"
  | arr items => "[" ++ prettyItems (depth + 1) items ++ lineStart depth ++ "]"
  | obj fields => "\x7b" ++ prettyFields (depth + 1) fields ++ lineStart depth ++ "\x7d"
  | v => scalar v

def prettyItems (depth : Nat) : List Json → String
  | [] => ""
  | [v] => lineStart depth ++ prettyAt depth v
  | v :: vs => lineStart depth ++ prettyAt depth v ++ "," ++ prettyItems depth vs

def prettyFields (depth : Nat) : List (String × Json) → String
  | [] => ""
  | [(key, v)] => lineStart depth ++ quote key ++ ": " ++ prettyAt depth v
  | (key, v) :: rest =>
    lineStart depth ++ quote key ++ ": " ++ prettyAt depth v ++ "," ++ prettyFields depth rest

end

def pretty (v : Json) : String :=
  prettyAt 0 v

/-- Inserts a field before the first whose name is greater. A field of the same name is replaced. -/
def insertField (key : String) (v : Json) : List (String × Json) → List (String × Json)
  | [] => [(key, v)]
  | (k, w) :: rest =>
    if key = k then (key, v) :: rest
    else if key < k then (key, v) :: (k, w) :: rest
    else (k, w) :: insertField key v rest

mutual

/-- The value with the fields of every object in the order of their names, the last of a repeated
name kept. -/
def sorted : Json → Json
  | arr items => arr (sortedItems items)
  | obj fields => obj (sortedFields fields [])
  | v => v

def sortedItems : List Json → List Json
  | [] => []
  | v :: vs => sorted v :: sortedItems vs

def sortedFields : List (String × Json) → List (String × Json) → List (String × Json)
  | [], done => done
  | (key, v) :: rest, done => sortedFields rest (insertField key (sorted v) done)

end

/-- The last field of that name. -/
def field? (key : String) : Json → Option Json
  | obj fields => (fields.findRev? (·.1 == key)).map Prod.snd
  | _ => none

end Json

end GlslAssist
