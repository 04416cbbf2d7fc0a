import GlslAssist.Decimal.Shortest
import GlslAssist.Mismatch
import GlslAssist.Settings
import GlslAssist.Toml.Tree

/-!
# Settings from TOML

The entries of a table are taken in the order in which they stand, and the first one that does not
fit is reported. Fields that are left out keep their defaults, but a uniform needs a name and a
type. In place of a table its fields may be listed in an array, by position. Keys that no setting
has are refused, those in the declaration of a uniform aside.
-/

namespace GlslAssist

open Toml (Value Entries)

def Toml.Value.found : Value → Found
  | .string s => .text s
  | .integer n => .integer n
  | .float x => .float x.longText
  | .boolean b => .boolean b
  | .moment => .map
  | .array _ => .list
  | .table _ => .map

namespace Settings

abbrev Decoded (α : Type) := Except Mismatch α

def text : Value → Decoded String
  | .string s => .ok s
  | v => .error (.wrongType v.found "a string")

/-- A natural number of thirty-two bits. -/
def count : Value → Decoded Nat
  | .integer n =>
    match Decimal.below? Decimal.wordLimit n with
    | some n => .ok n
    | none => .error (.wrongValue (.integer n) "u32")
  | v => .error (.wrongType v.found "u32")

def items : Value → Decoded (List Value)
  | .array vs => .ok vs
  | v => .error (.wrongType v.found "a sequence")

/-- The single key of a date or time where it is looked at as a table. -/
def momentKey : String := "$__toml_private_datetime"

/-! ## Signature help and uniforms -/

/-- Reads the fields of the table for signature help, given the lookback so far. -/
def lookbackFrom (lookback : Nat) : Entries → Decoded Nat
  | [] => .ok lookback
  | (key, v) :: rest =>
    if key = "lookback_lines" then
      match count v with
      | .ok n => lookbackFrom n rest
      | .error e => .error e
    else .error (.unknownField key ["lookback_lines"])

def lookbackOf : Value → Decoded Nat
  | .table entries => lookbackFrom default.lookback entries
  | .array [] => .ok default.lookback
  | .array (v :: _) => count v
  | .moment => .error (.unknownField momentKey ["lookback_lines"])
  | v => .error (.wrongType v.found "struct SignatureHelpConfig")

/-- The fields of a uniform that were met so far. -/
structure UniformDraft where
  name : Option String
  type : Option String
  description : Option String

namespace UniformDraft

def start : UniformDraft := ⟨none, none, none⟩

def add (draft : UniformDraft) (key : String) (v : Value) : Decoded UniformDraft :=
  if key = "name" then (text v).map fun s => { draft with name := some s }
  else if key = "type" then (text v).map fun s => { draft with type := some s }
  else if key = "description" then (text v).map fun s => { draft with description := some s }
  else .ok draft

def finish (draft : UniformDraft) : Decoded Variable :=
  match draft.name, draft.type with
  | none, _ => .error (.missingField "name")
  | some _, none => .error (.missingField "type")
  | some name, some type => .ok ⟨name, type, draft.description.getD ""⟩

end UniformDraft

/-- The uniform whose fields stand in an array. -/
def listedUniform : List Value → Decoded Variable
  | [] => .error (.wrongLength 0 "struct UniformDescriptor with 3 elements")
  | name :: rest =>
    (text name).bind fun name =>
      match rest with
      | [] => .error (.wrongLength 1 "struct UniformDescriptor with 3 elements")
      | type :: rest =>
        (text type).bind fun type =>
          match rest with
          | [] => .ok ⟨name, type, ""⟩
          | description :: _ => (text description).map fun description => ⟨name, type, description⟩

def uniformOf : Value → Decoded Variable
  | .table entries =>
    (entries.foldlM (fun draft (key, v) => UniformDraft.add draft key v) UniformDraft.start).bind
      UniformDraft.finish
  | .array vs => listedUniform vs
  | .moment => UniformDraft.finish .start
  | v => .error (.wrongType v.found "struct UniformDescriptor")

/-! ## All settings -/

def fieldNames : List String :=
  ["log_level", "extensions", "signature_help", "uniforms"]

def setField (s : Settings) (key : String) (v : Value) : Decoded Settings :=
  if key = "log_level" then (text v).map fun level => { s with logLevel := some level }
  else if key = "extensions" then
    ((items v).bind (List.mapM text)).map fun names => { s with extensions := names }
  else if key = "signature_help" then (lookbackOf v).map fun n => { s with lookback := n }
  else if key = "uniforms" then
    ((items v).bind (List.mapM uniformOf)).map fun us => { s with uniforms := us }
  else .error (.unknownField key fieldNames)

/-- Reads settings from the entries of a document, the defaults standing for the rest. -/
def ofEntries (entries : Entries) : Decoded Settings :=
  entries.foldlM (fun s (key, v) => setField s key v) default

/-- Why a text is no settings file. -/
inductive ReadError where
  /-- The text is no TOML document. -/
  | malformed
  | mismatch (m : Mismatch)
  | fault (f : Fault)
  deriving DecidableEq, Repr

/-- Reads settings and makes sure that they are sound. -/
def ofText (content : List Char) : Except ReadError Settings :=
  match Toml.read content with
  | none => .error .malformed
  | some entries =>
    match ofEntries entries with
    | .error m => .error (.mismatch m)
    | .ok s =>
      match s.firstFault? with
      | some f => .error (.fault f)
      | none => .ok s

end Settings

end GlslAssist
