import GlslAssist.Json

/-!
# Reading JSON

The readers take a text and give what it begins with together with the rest, or nothing if it begins
with no such thing. A text stands for a value if nothing but blanks is left. Values nest to a
bounded depth; a text in which they go deeper is refused.
-/

namespace GlslAssist.Json

open Text (hexNumber? scalar?)

def isSpace (c : Char) : Bool :=
  c == ' ' || c == '\t' || c == '\n' || c == '\r'

def skipSpaces (s : List Char) : List Char :=
  s.dropWhile isSpace

/-- The number that four hexadecimal digits stand for. -/
def unit? (s : List Char) : Option (Nat × List Char) :=
  if s.length < 4 then none else (hexNumber? (s.take 4)).map fun n => (n, s.drop 4)

/-- A character by number. One beyond sixteen bits is written as two numbers, its surrogates. -/
def numbered? (s : List Char) : Option (Char × List Char) :=
  (unit? s).bind fun (high, s) =>
    if 0xD800 ≤ high ∧ high < 0xDC00 then
      match s with
      | '\\' :: 'u' :: s =>
        (unit? s).bind fun (low, s) =>
          if 0xDC00 ≤ low ∧ low < 0xE000 then
            (scalar? (0x10000 + (high - 0xD800) * 0x400 + (low - 0xDC00))).map fun c => (c, s)
          else none
      | _ => none
    else (scalar? high).map fun c => (c, s)

/-- What a backslash and these characters stand for. -/
def escaped? : List Char → Option (Char × List Char)
  | '"' :: s => some ('"', s)
  | '\\' :: s => some ('\\', s)
  | '/' :: s => some ('/', s)
  | 'b' :: s => some (Char.ofNat 0x08, s)
  | 'f' :: s => some (Char.ofNat 0x0C, s)
  | 'n' :: s => some ('\n', s)
  | 'r' :: s => some ('\r', s)
  | 't' :: s => some ('\t', s)
  | 'u' :: s => numbered? s
  | _ => none

/-- The rest of a string, its opening quote being read. -/
def stringRest : Nat → List Char → Option (List Char × List Char)
  | 0, _ | _, [] => none
  | fuel + 1, c :: s =>
    if c == '"' then some ([], s)
    else if c == '\\' then
      (escaped? s).bind fun (c, s) =>
        (stringRest fuel s).map fun (content, s) => (c :: content, s)
    else if c.toNat < 0x20 then none
    else (stringRest fuel s).map fun (content, s) => (c :: content, s)

/-! ## Numbers -/

/-- The digits of a fraction or a power of ten, of which there is at least one. -/
def someDigits? (s : List Char) : Option (List Char × List Char) :=
  let digits := s.takeWhile Char.isDigit
  if digits.isEmpty then none else some (digits, s.dropWhile Char.isDigit)

/-- Digits without a zero before others. -/
def wholeDigits? : List Char → Option (List Char × List Char)
  | '0' :: s => if (s.head?.map Char.isDigit).getD false then none else some (['0'], s)
  | s => someDigits? s

/-- The digits of a fraction, none if there is no point. -/
def fraction? : List Char → Option (List Char × List Char)
  | '.' :: s => someDigits? s
  | s => some ([], s)

/-- The power of ten after its letter; nothing if there is no letter. -/
def power? (s : List Char) : Option (Option Int × List Char) :=
  match s with
  | c :: rest =>
    if c == 'e' || c == 'E' then
      let (negative, rest) := Decimal.splitSign rest
      (someDigits? rest).map fun (digits, s) =>
        (some (if negative then -(Decimal.ofDigits digits : Int) else Decimal.ofDigits digits), s)
    else some (none, s)
  | [] => some (none, [])

/-- Appends digits to a number as long as it stays within sixty-four bits, and counts them. -/
def appendDigits (n : Nat) : List Char → Nat × Nat
  | [] => (n, 0)
  | c :: s =>
    let more := 10 * n + Decimal.ofDigits [c]
    if more < Decimal.longLimit then
      let (m, count) := appendDigits more s
      (m, count + 1)
    else (n, 0)

/-- A number that is no integer of sixty-four bits. Digits that these cannot hold are taken for
zeros; one too large for a finite number is refused. -/
def float? (negative : Bool) (whole fraction : List Char) (power : Int) : Option Json :=
  let (high, taken) := appendDigits 0 whole
  let (digits, places) := appendDigits high fraction
  (Decimal.Binary64.shifted digits (whole.length - taken - places + power)).map fun magnitude =>
    .float (.finite negative magnitude)

/-- The value of a literal. Minus zero is no integer. -/
def ofLiteral? (negative : Bool) (whole fraction : List Char) (power : Option Int) :
    Option Json :=
  let n : Int := Decimal.ofDigits whole
  if fraction ≠ [] ∨ power.isSome then float? negative whole fraction (power.getD 0)
  else if negative then
    if 0 < n ∧ n ≤ 9223372036854775808 then some (.int (-n)) else float? negative whole [] 0
  else if n < Decimal.longLimit then some (.int n)
  else float? negative whole [] 0

def number? (s : List Char) : Option (Json × List Char) :=
  let negative := s.head? = some '-'
  (wholeDigits? (if negative then s.tail else s)).bind fun (whole, s) =>
    (fraction? s).bind fun (fraction, s) =>
      (power? s).bind fun (power, s) =>
        (ofLiteral? negative whole fraction power).map fun v => (v, s)

/-! ## Values -/

/-- How many levels of arrays and objects a text may have. -/
def depthLimit : Nat := 127

mutual

/-- A value with `room` more levels inside it. -/
def value? : Nat → Nat → List Char → Option (Json × List Char)
  | 0, _, _ => none
  | fuel + 1, room, s =>
    match skipSpaces s with
    | 'n' :: 'u' :: 'l' :: 'l' :: s => some (.null, s)
    | 't' :: 'r' :: 'u' :: 'e' :: s => some (.bool true, s)
    | 'f' :: 'a' :: 'l' :: 's' :: 'e' :: s => some (.bool false, s)
    | '"' :: s =>
      (stringRest (s.length + 1) s).map fun (content, s) => (.str (String.ofList content), s)
    | '[' :: s =>
      if room = 0 then none
      else
        match skipSpaces s with
        | ']' :: s => some (.arr [], s)
        | s => (items? fuel (room - 1) s).map fun (vs, s) => (.arr vs, s)
    | '\x7b' :: s =>
      if room = 0 then none
      else
        match skipSpaces s with
        | '\x7d' :: s => some (.obj [], s)
        | s => (fields? fuel (room - 1) s).map fun (fs, s) => (.obj fs, s)
    | s => number? s

/-- The items of an array up to its end, of which there is at least one. -/
def items? : Nat → Nat → List Char → Option (List Json × List Char)
  | 0, _, _ => none
  | fuel + 1, room, s =>
    (value? fuel room s).bind fun (v, s) =>
      match skipSpaces s with
      | ',' :: s => (items? fuel room s).map fun (vs, s) => (v :: vs, s)
      | ']' :: s => some ([v], s)
      | _ => none

/-- The fields of an object up to its end, of which there is at least one. -/
def fields? : Nat → Nat → List Char → Option (List (String × Json) × List Char)
  | 0, _, _ => none
  | fuel + 1, room, s =>
    match skipSpaces s with
    | '"' :: s =>
      (stringRest (s.length + 1) s).bind fun (key, s) =>
        match skipSpaces s with
        | ':' :: s =>
          (value? fuel room s).bind fun (v, s) =>
            match skipSpaces s with
            | ',' :: s =>
              (fields? fuel room s).map fun (fs, s) => ((String.ofList key, v) :: fs, s)
            | '\x7d' :: s => some ([(String.ofList key, v)], s)
            | _ => none
        | _ => none
    | _ => none

end

/-- The value that a text stands for. -/
def ofText? (text : String) : Option Json :=
  let s := text.toList
  match value? (2 * s.length + 2) depthLimit s with
  | some (v, rest) => if (skipSpaces rest).isEmpty then some v else none
  | none => none

end GlslAssist.Json
