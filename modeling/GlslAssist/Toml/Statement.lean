import GlslAssist.Toml.Lexeme

/-!
# The statements of a TOML document

A document is a list of lines, each a key with a value, the header of a table, or the header of an
element of an array of tables. Arrays and inline tables are read here, since a value can hold them.
Keys within one inline table may be dotted; none may be given twice, and a table that dotted keys
made cannot be given a value (`Inline.insert`).
-/

namespace GlslAssist.Toml

inductive Statement where
  | pair (path : List String) (value : Value)
  | table (path : List String)
  | element (path : List String)
  deriving Repr, Inhabited

/-- An inline table in the making: a value, or a table that dotted keys made. -/
inductive Inline where
  | leaf (v : Value)
  | dotted (entries : List (String × Inline))
  deriving Inhabited

namespace Inline

/-- The entries with a value under a dotted key. -/
def insert : List String → Value → List (String × Inline) → Option (List (String × Inline))
  | [], _, _ => none
  | [key], v, entries =>
    if entries.any (·.1 == key) then none else some (entries ++ [(key, leaf v)])
  | key :: path, v, entries =>
    match entries.find? (·.1 == key) with
    | none => (insert path v []).map fun inner => entries ++ [(key, dotted inner)]
    | some (_, leaf _) => none
    | some (_, dotted inner) =>
      (insert path v inner).map fun inner =>
        entries.map fun e => if e.1 == key then (key, dotted inner) else e

mutual

def toValue : Inline → Value
  | leaf v => v
  | dotted entries => .table (toEntries entries)

def toEntries : List (String × Inline) → Entries
  | [] => []
  | (key, e) :: rest => (key, toValue e) :: toEntries rest

end

/-- The table with these entries, each under its dotted key. -/
def ofPairs? (pairs : List (List String × Value)) : Option Value :=
  (pairs.foldlM (fun entries (path, v) => insert path v entries) []).map fun entries =>
    .table (toEntries entries)

end Inline

/-! ## Values -/

/-- A value of one part, chosen by its first character. -/
def plainValue : Reader Value := fun s =>
  match s with
  | [] => none
  | c :: rest =>
    if c == '"' || c == '\'' then (string s).map fun (text, s) => (.string text, s)
    else if c == '+' || c == '-' || c.isDigit then
      match moment s, float s with
      | some found, _ => some found
      | none, some found => some found
      | none, none => integer s
    else if c == 'i' || c == 'n' then specialFloat s
    else
      match c, rest with
      | 't', 'r' :: 'u' :: 'e' :: rest => some (.boolean true, rest)
      | 'f', 'a' :: 'l' :: 's' :: 'e' :: rest => some (.boolean false, rest)
      | _, _ => none

mutual

/-- A value with `room` more levels of nesting. -/
def value : Nat → Nat → Reader Value
  | 0, _, _ => none
  | fuel + 1, room, s =>
    match s with
    | '[' :: s =>
      if room = 0 then none
      else (items fuel (room - 1) s).map fun (vs, s) => (.array vs, s)
    | '{' :: s =>
      if room = 0 then none
      else
        match skipSpaces s with
        | '}' :: s => some (.table [], s)
        | _ => (pairs fuel (room - 1) s).bind fun (ps, s) =>
          (Inline.ofPairs? ps).map fun v => (v, s)
    | s => plainValue s

/-- The rest of an array; a comma may follow its last value. -/
def items : Nat → Nat → Reader (List Value)
  | 0, _, _ => none
  | fuel + 1, room, s =>
    match skipBlanks false s with
    | none => none
    | some (']' :: s) => some ([], s)
    | some s =>
      (value fuel room s).bind fun (v, s) =>
        match skipBlanks false s with
        | some (',' :: s) => (items fuel room s).map fun (vs, s) => (v :: vs, s)
        | some (']' :: s) => some ([v], s)
        | _ => none

/-- The rest of an inline table that is not empty, all on one line. -/
def pairs : Nat → Nat → Reader (List (List String × Value))
  | 0, _, _ => none
  | fuel + 1, room, s =>
    (keyPath s).bind fun (path, s) =>
      match s with
      | '=' :: s =>
        (value fuel room (skipSpaces s)).bind fun (v, s) =>
          match skipSpaces s with
          | ',' :: s => (pairs fuel room s).map fun (ps, s) => ((path, v) :: ps, s)
          | '}' :: s => some ([(path, v)], s)
          | _ => none
      | _ => none

end

/-! ## Lines -/

/-- A header with the given brackets, to the end of its line. -/
def header (opening closing : List Char) : Reader (List String) := fun s =>
  if opening.isPrefixOf s then
    (keyPath (s.drop opening.length)).bind fun (path, s) =>
      if closing.isPrefixOf s then
        (lineEnd? (s.drop closing.length)).map fun s => (path, s)
      else none
  else none

def keyValue : Reader Statement := fun s =>
  (keyPath s).bind fun (path, s) =>
    match s with
    | '=' :: s =>
      (value (4 * s.length + 4) (nestingLimit - 1) (skipSpaces s)).bind fun (v, s) =>
        (lineEnd? s).map fun s => (.pair path v, s)
    | _ => none

def statementsFrom : Nat → List Char → Option (List Statement)
  | 0, _ => none
  | fuel + 1, s =>
    let s := skipSpaces s
    let next (found : Option (Statement × List Char)) : Option (List Statement) :=
      found.bind fun (statement, s) => (statementsFrom fuel s).map (statement :: ·)
    match s with
    | [] => some []
    | '[' :: '[' :: _ => next ((header ['[', '['] [']', ']'] s).map fun (p, s) => (.element p, s))
    | '[' :: _ => next ((header ['['] [']'] s).map fun (p, s) => (.table p, s))
    | c :: _ =>
      if c == '#' || c == '\n' || c == '\r' then (lineEnd? s).bind (statementsFrom fuel)
      else next (keyValue s)

/-- The statements of a document. A byte order mark before them is skipped. -/
def statements? (text : List Char) : Option (List Statement) :=
  let s := match text with
    | c :: rest => if c.toNat = 0xFEFF then rest else text
    | [] => []
  statementsFrom (s.length + 1) s

end GlslAssist.Toml
