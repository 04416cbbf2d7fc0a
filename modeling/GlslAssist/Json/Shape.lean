import GlslAssist.Json
import GlslAssist.Mismatch
import GlslAssist.Uri.Reader

/-!
# Shapes of JSON values

A request declares the shape of its parameters. `Shape.conform` holds a value against a shape and
gives back the parts that the shape names, with records as objects even where their fields came as a
list, so that what has conformed can be read field by field. Fields that a shape does not name are
passed over, and optional ones may be left out or null.

An object may hold several records at once. The fields of the record that it is named for come
first, and then those of each record that is joined to it.
-/

namespace GlslAssist

/-- What stands at a place. -/
def Json.found : Json → Found
  | .null => .null
  | .bool b => .boolean b
  | .int n => .integer n
  | .float x => .float x.text
  | .str s => .text s
  | .arr _ => .list
  | .obj _ => .map

inductive Shape where
  | any
  | text
  | flag
  | uri
  /-- A natural number of thirty-two bits. -/
  | count
  /-- An integer of thirty-two bits. -/
  | integer
  | number
  /-- One of some names. -/
  | choice (names : List String)
  /-- Whatever fits one of some shapes. -/
  | anyOf (name : String) (shapes : List Shape)
  /-- The shape, or null; a field of this shape may be left out of an object. -/
  | optional (inner : Shape)
  /-- The shape; a field of this shape may be left out of an object and of a list. -/
  | spare (inner : Shape)
  /-- The shape, or a boolean in its place. -/
  | orFlag (inner : Shape)
  /-- A list of two. -/
  | pair (item : Shape)
  | list (item : Shape)
  /-- An object with any keys, or with those that are URIs. -/
  | dictionary (byUri : Bool) (item : Shape)
  | record (name : String) (fields : List (String × Shape))
  /-- An object that other shapes share. -/
  | joined (name : String) (own : List (String × Shape)) (others : List Shape)

namespace Shape

abbrev Conformed (α : Type) := Except Mismatch α

/-- A field of this shape may be left out of an object. -/
def mayLack : Shape → Bool
  | optional _ | spare _ => true
  | _ => false

/-- A field of this shape may be left out at the end of a list. -/
def isSpare : Shape → Bool
  | spare _ => true
  | _ => false

/-- An integer between bounds. -/
def bounded (low high : Int) (expected : String) (v : Json) : Conformed Json :=
  match v.found with
  | .integer n => if low ≤ n ∧ n < high then .ok v else .error (.wrongValue v.found expected)
  | found => .error (.wrongType found expected)

/-- A text that stands for a URI. -/
def conformUri : Json → Conformed Json
  | .str s =>
    match Uri.ofText s with
    | .ok _ => .ok (.str s)
    | .error e => .error (.wrongText e.message s)
  | v => .error (.wrongType v.found "a string representing an URL")

/-- A name may stand alone or as the only key of an object, with nothing under it. In an object that
records share, an empty object is nothing too. -/
def conformChoice (shared : Bool) (names : List String) : Json → Conformed Json
  | .str s => if s ∈ names then .ok (.str s) else .error (.unknownVariant s names)
  | .obj [(key, v)] =>
    if key ∈ names then
      match shared, v with
      | _, .null | true, .obj [] => .ok (.str key)
      | _, v => .error (.wrongType v.found "unit")
    else .error (.unknownVariant key names)
  | .obj _ => .error (.wrongValue .map "map with a single key")
  | v => .error (.wrongType v.found "string or map")

/-- The first field that may not be left out and is not given. -/
def missing? (fields : List (String × Shape)) (given : List (String × Json)) : Option String :=
  (fields.find? fun f => !f.2.mayLack && !given.any (·.1 == f.1)).map Prod.fst

def elements (count : Nat) : String :=
  toString count ++ if count = 1 then " element" else " elements"

/-- What a list of `count` items is told if it is too long for a record of `wanted` fields. -/
def tooLong (shared : Bool) (count wanted : Nat) : Mismatch :=
  .wrongLength count
    (if shared then elements wanted ++ " in sequence" else "fewer elements in array")

/-- The place of the first field from `count` on that a list cannot leave out. -/
def lacking? (fields : List (String × Shape)) (count : Nat) : Option Nat :=
  ((fields.drop count).findIdx? fun f => !f.2.isSpare).map (count + ·)

/-- What is wrong with a list of `count` items whose fields all fit. -/
def lengthMismatch? (shared : Bool) (name : String) (fields : List (String × Shape)) (count : Nat) :
    Option Mismatch :=
  match lacking? fields count with
  | some index =>
    some (.wrongLength index ("struct " ++ name ++ " with " ++ elements fields.length))
  | none => if fields.length < count then some (tooLong shared count fields.length) else none

/-- The object of the fields that were given, if none is missing. -/
def complete (fields : List (String × Shape)) (given : List (String × Json)) : Conformed Json :=
  match missing? fields given with
  | some key => .error (.missingField key)
  | none => .ok (.obj given)

/-- The entries of all objects as one object. -/
def together (parts : List Json) : Json :=
  .obj (parts.flatMap fun
    | .obj entries => entries
    | _ => [])

mutual

/-- Holds a value against a shape. What stands in an object that records share is `shared`. -/
def conform (shared : Bool) : Shape → Json → Conformed Json
  | any, v => .ok v
  | text, .str s => .ok (.str s)
  | text, v => .error (.wrongType v.found "a string")
  | flag, .bool b => .ok (.bool b)
  | flag, v => .error (.wrongType v.found "a boolean")
  | uri, v => conformUri v
  | count, v => bounded 0 Decimal.wordLimit "u32" v
  | integer, v => bounded (-2147483648) 2147483648 "i32" v
  | number, .int n => .ok (.int n)
  | number, .float x => .ok (.float x)
  | number, v => .error (.wrongType v.found "f32")
  | choice names, v => conformChoice shared names v
  | anyOf name shapes, v =>
    match conformAny shapes v with
    | some v => .ok v
    | none => .error (.noVariant name)
  | optional _, .null => .ok .null
  | optional inner, v => conform shared inner v
  | spare inner, v => conform shared inner v
  | orFlag _, .bool b => .ok (.bool b)
  | orFlag inner, v => conform shared inner v
  | pair item, .arr [v, w] =>
    (conform shared item v).bind fun v => (conform shared item w).map fun w => .arr [v, w]
  | pair _, v => .error (.wrongType v.found "an array of length 2")
  | list item, .arr vs => (vs.mapM (conform shared item)).map .arr
  | list _, v => .error (.wrongType v.found "a sequence")
  | dictionary byUri item, .obj entries =>
    let conformed := entries.mapM fun (key, v) =>
      (if byUri then conformUri (.str key) else .ok (.str key)).bind fun _ =>
        (conform shared item v).map fun v => (key, v)
    conformed.map .obj
  | dictionary byUri _, v => .error (.wrongType v.found (if byUri then "map" else "a map"))
  | record _ fields, .obj entries =>
    (entries.mapM fun (key, v) => conformField shared fields key v).bind fun given =>
      complete fields given.flatten
  | record name fields, .arr vs =>
    (conformList shared fields vs).bind fun given =>
      match lengthMismatch? shared name fields vs.length with
      | some mismatch => .error mismatch
      | none => .ok (.obj given)
  | record name _, v => .error (.wrongType v.found ("struct " ++ name))
  | joined _ own others, .obj entries =>
    (entries.mapM fun (key, v) => conformField shared own key v).bind fun given =>
      (complete own given.flatten).bind fun first =>
        let rest := Json.obj (entries.filter fun e => !own.any (·.1 == e.1))
        (conformParts others rest).map fun parts => together (first :: parts)
  | joined name _ _, v => .error (.wrongType v.found ("struct " ++ name))

/-- The value as the first shape that it fits. -/
def conformAny : List Shape → Json → Option Json
  | [], _ => none
  | shape :: rest, v =>
    match conform true shape v with
    | .ok v => some v
    | .error _ => conformAny rest v

/-- One object as every one of some shapes. -/
def conformParts : List Shape → Json → Conformed (List Json)
  | [], _ => .ok []
  | shape :: rest, v =>
    (conform true shape v).bind fun part => (conformParts rest v).map fun parts => part :: parts

/-- The entry of an object with a key that a field has. -/
def conformField (shared : Bool) :
    List (String × Shape) → String → Json → Conformed (List (String × Json))
  | [], _, _ => .ok []
  | (name, shape) :: rest, key, v =>
    if key = name then (conform shared shape v).map fun v => [(key, v)]
    else conformField shared rest key v

/-- The entries of a record whose fields come as a list. -/
def conformList (shared : Bool) :
    List (String × Shape) → List Json → Conformed (List (String × Json))
  | (name, shape) :: rest, v :: vs =>
    (conform shared shape v).bind fun v =>
      (conformList shared rest vs).map fun entries => (name, v) :: entries
  | _, _ => .ok []

end

end Shape

end GlslAssist
