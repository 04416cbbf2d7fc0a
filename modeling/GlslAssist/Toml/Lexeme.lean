import GlslAssist.Text.Hex
import GlslAssist.Toml.Value

/-!
# The smallest parts of a TOML document

Blanks, keys, strings, numbers and dates. Each reader takes the text and gives what it read with the
rest of the text, or nothing if the text does not begin with such a part.
-/

namespace GlslAssist.Toml

open Text (hexValue? hexNumber? scalar?)

abbrev Reader (α : Type) := List Char → Option (α × List Char)

def isSpace (c : Char) : Bool :=
  c == ' ' || c == '\t'

def skipSpaces (s : List Char) : List Char :=
  s.dropWhile isSpace

/-- A character that may stand in a comment or, quotes and backslashes aside, in a string: no
control character but the tab. -/
def isPlain (c : Char) : Bool :=
  c == '\t' || (0x20 ≤ c.toNat && c.toNat != 0x7F)

/-- What follows a line ending; a carriage return alone is none. -/
def newline? : List Char → Option (List Char)
  | '\n' :: s => some s
  | '\r' :: '\n' :: s => some s
  | _ => none

/-- What follows the rest of a line: spaces, perhaps a comment, and its ending or the end of text.
-/
def lineEnd? (s : List Char) : Option (List Char) :=
  let s := skipSpaces s
  let s := if s.head? = some '#' then s.dropWhile isPlain else s
  if s.isEmpty then some [] else newline? s

/-- Skips spaces, line endings and comments, the flag telling whether inside a comment. -/
def skipBlanks : Bool → List Char → Option (List Char)
  | false, [] => some []
  | true, [] => none
  | false, c :: s =>
    if isSpace c || c == '\n' then skipBlanks false s
    else if c == '\r' then if s.head? = some '\n' then skipBlanks false s else none
    else if c == '#' then skipBlanks true s
    else some (c :: s)
  | true, c :: s =>
    if c == '\n' then skipBlanks false s
    else if c == '\r' then if s.head? = some '\n' then skipBlanks true s else none
    else if isPlain c then skipBlanks true s
    else none

/-! ## Strings and keys -/

/-- What a backslash and these characters stand for. -/
def escape? : Reader Char
  | 'b' :: s => some (Char.ofNat 0x08, s)
  | 't' :: s => some ('\t', s)
  | 'n' :: s => some ('\n', s)
  | 'f' :: s => some (Char.ofNat 0x0C, s)
  | 'r' :: s => some ('\r', s)
  | '"' :: s => some ('"', s)
  | '\\' :: s => some ('\\', s)
  | 'u' :: s => if s.length < 4 then none
    else ((hexNumber? (s.take 4)).bind scalar?).map fun c => (c, s.drop 4)
  | 'U' :: s => if s.length < 8 then none
    else ((hexNumber? (s.take 8)).bind scalar?).map fun c => (c, s.drop 8)
  | _ => none

/-- Puts a character before what was read. -/
def before (c : Char) : Option (List Char × List Char) → Option (List Char × List Char) :=
  Option.map fun (content, rest) => (c :: content, rest)

/-- The rest of a basic string, its opening quote being read. -/
def basicRest (fuel : Nat) : Reader (List Char) := fun s =>
  match fuel, s with
  | 0, _ | _, [] => none
  | fuel + 1, c :: s =>
    if c == '"' then some ([], s)
    else if c == '\\' then (escape? s).bind fun (c, s) => before c (basicRest fuel s)
    else if isPlain c then before c (basicRest fuel s)
    else none

/-- The rest of a literal string, its opening apostrophe being read. -/
def literalRest : Reader (List Char)
  | [] => none
  | c :: s =>
    if c == '\'' then some ([], s)
    else if isPlain c then before c (literalRest s)
    else none

/-- Ends a multi-line string at three of its quotes, up to two more before them being content. -/
def closing? (quote : Char) (s : List Char) : Option (List Char × List Char) :=
  let run := ((s.take 5).takeWhile (· == quote)).length
  if run < 3 then none else some (List.replicate (run - 3) quote, s.drop run)

/-- Skips spaces and line endings; a carriage return alone stays. -/
def skipLines : List Char → List Char
  | [] => []
  | c :: s =>
    if isSpace c || c == '\n' || (c == '\r' && s.head? = some '\n') then skipLines s else c :: s

/-- What follows a backslash that ends its line: all blanks and line endings after it are left out.
-/
def continued? (s : List Char) : Option (List Char) :=
  (newline? (skipSpaces s)).map skipLines

/-- The rest of a multi-line basic string. Line endings are read as line feeds. -/
def multilineBasicRest (fuel : Nat) : Reader (List Char) := fun s =>
  match fuel, s with
  | 0, _ | _, [] => none
  | fuel + 1, c :: s =>
    match closing? '"' (c :: s), newline? (c :: s) with
    | some found, _ => some found
    | none, some s => before '\n' (multilineBasicRest fuel s)
    | none, none =>
      if c == '\\' then
        match continued? s with
        | some s => multilineBasicRest fuel s
        | none => (escape? s).bind fun (c, s) => before c (multilineBasicRest fuel s)
      else if isPlain c then before c (multilineBasicRest fuel s)
      else none

/-- The rest of a multi-line literal string. Line endings are read as line feeds. -/
def multilineLiteralRest (fuel : Nat) : Reader (List Char) := fun s =>
  match fuel, s with
  | 0, _ | _, [] => none
  | fuel + 1, c :: s =>
    match closing? '\'' (c :: s), newline? (c :: s) with
    | some found, _ => some found
    | none, some s => before '\n' (multilineLiteralRest fuel s)
    | none, none => if isPlain c then before c (multilineLiteralRest fuel s) else none

/-- A line ending right after the opening of a multi-line string is left out. -/
def skipFirstNewline (s : List Char) : List Char :=
  (newline? s).getD s

/-- A string on one line. -/
def lineString : Reader String
  | '"' :: s => (basicRest (s.length + 1) s).map fun (content, s) => (String.ofList content, s)
  | '\'' :: s => (literalRest s).map fun (content, s) => (String.ofList content, s)
  | _ => none

def string : Reader String
  | '"' :: '"' :: '"' :: s =>
    (multilineBasicRest (s.length + 1) (skipFirstNewline s)).map fun (content, s) =>
      (String.ofList content, s)
  | '\'' :: '\'' :: '\'' :: s =>
    (multilineLiteralRest (s.length + 1) (skipFirstNewline s)).map fun (content, s) =>
      (String.ofList content, s)
  | s => lineString s

def isBareKeyChar (c : Char) : Bool :=
  c.isAlphanum || c == '_' || c == '-'

def simpleKey : Reader String := fun s =>
  match s with
  | '"' :: _ | '\'' :: _ => lineString s
  | s =>
    let bare := s.takeWhile isBareKeyChar
    if bare.isEmpty then none else some (String.ofList bare, s.dropWhile isBareKeyChar)

/-- A key and the spaces around it. -/
def spacedKey : Reader String := fun s =>
  (simpleKey (skipSpaces s)).map fun (key, s) => (key, skipSpaces s)

/-- Keys joined by points. -/
def keysFrom : Nat → Reader (List String)
  | 0, _ => none
  | fuel + 1, s =>
    (spacedKey s).bind fun (key, s) =>
      match s with
      | '.' :: s => (keysFrom fuel s).map fun (keys, s) => (key :: keys, s)
      | s => some ([key], s)

/-- How deep keys and values may nest. -/
def nestingLimit : Nat := 80

def keyPath : Reader (List String) := fun s =>
  (keysFrom (s.length + 1) s).bind fun (keys, s) =>
    if keys.length < nestingLimit then some (keys, s) else none

/-! ## Numbers and times -/

/-- Digits, of which an underscore may part two; the underscores are left out. -/
def moreDigits (isDigit : Char → Bool) : Reader (List Char)
  | [] => some ([], [])
  | c :: s =>
    if isDigit c then before c (moreDigits isDigit s)
    else if c == '_' then
      match s with
      | [] => none
      | d :: s => if isDigit d then before d (moreDigits isDigit s) else none
    else some ([], c :: s)

def someDigits (isDigit : Char → Bool) : Reader (List Char)
  | [] => none
  | c :: s => if isDigit c then before c (moreDigits isDigit s) else none

/-- Decimal digits with no zero before others. -/
def wholeDigits : Reader (List Char)
  | [] => none
  | c :: s =>
    if c == '0' then some (['0'], s)
    else if c.isDigit then before c (moreDigits Char.isDigit s)
    else none

/-- The number that digits of some base stand for. -/
def numberOf (base : Nat) (digits : List Char) : Nat :=
  digits.foldl (fun n c => base * n + (hexValue? c).getD 0) 0

/-- The integers of sixty-four bits, all others being refused. -/
def wordSized? (n : Int) : Option Value :=
  if -9223372036854775808 ≤ n ∧ n < 9223372036854775808 then some (.integer n) else none

def integer : Reader Value := fun s =>
  let based (base : Nat) (isDigit : Char → Bool) (s : List Char) : Option (Value × List Char) :=
    (someDigits isDigit s).bind fun (digits, s) =>
      (wordSized? (numberOf base digits)).map fun v => (v, s)
  match s with
  | '0' :: 'x' :: s => based 16 (fun c => (hexValue? c).isSome) s
  | '0' :: 'o' :: s => based 8 (fun c => '0' ≤ c && c ≤ '7') s
  | '0' :: 'b' :: s => based 2 (fun c => c == '0' || c == '1') s
  | s =>
    let (negative, s) := Decimal.splitSign s
    (wholeDigits s).bind fun (digits, s) =>
      let n : Int := numberOf 10 digits
      (wordSized? (if negative then -n else n)).map fun v => (v, s)

/-- A power of ten after a letter. -/
def exponent : Reader Int
  | c :: s =>
    if c == 'e' || c == 'E' then
      let (negative, s) := Decimal.splitSign s
      (someDigits Char.isDigit s).map fun (digits, s) =>
        let n : Int := numberOf 10 digits
        (if negative then -n else n, s)
    else none
  | [] => none

/-- The infinities and the one that is not a number. -/
def specialFloat : Reader Value := fun s =>
  let (negative, s) := Decimal.splitSign s
  match s with
  | 'i' :: 'n' :: 'f' :: s => some (.float (.infinite negative), s)
  | 'n' :: 'a' :: 'n' :: s => some (.float .nan, s)
  | _ => none

/-- Digits with a fraction, an exponent or both. One too large for a finite number is refused,
unless it is negative. -/
def float : Reader Value := fun s =>
  let (negative, rest) := Decimal.splitSign s
  let plain : Option (Value × List Char) :=
    (wholeDigits rest).bind fun (whole, s) =>
      let fraction : Option (List Char × List Char) :=
        match s with
        | '.' :: s => someDigits Char.isDigit s
        | s => some ([], s)
      fraction.bind fun (fraction, s) =>
        let power : Option (Int × List Char) :=
          match exponent s with
          | some found => some found
          | none => if fraction.isEmpty then none else some (0, s)
        power.bind fun (power, s) =>
          let x := Decimal.Binary64.ofDecimal negative (numberOf 10 (whole ++ fraction))
            (power - fraction.length)
          if x = .infinite false then none else some (.float x, s)
  match plain with
  | some found => some found
  | none => specialFloat s

/-- A number of exactly so many digits within bounds. -/
def fixedNumber (count low high : Nat) : Reader Nat := fun s =>
  let digits := s.take count
  let n := numberOf 10 digits
  if digits.length = count ∧ digits.all Char.isDigit ∧ low ≤ n ∧ n ≤ high then
    some (n, s.drop count)
  else none

def char (c : Char) : Reader Unit
  | d :: s => if c = d then some ((), s) else none
  | [] => none

def daysOfMonth (year month : Nat) : Nat :=
  if month = 2 then
    if year % 4 = 0 ∧ (year % 100 ≠ 0 ∨ year % 400 = 0) then 29 else 28
  else if month = 4 ∨ month = 6 ∨ month = 9 ∨ month = 11 then 30
  else 31

def date : Reader Unit := fun s => do
  let (year, s) ← fixedNumber 4 0 9999 s
  let (_, s) ← char '-' s
  let (month, s) ← fixedNumber 2 1 12 s
  let (_, s) ← char '-' s
  let (_, s) ← fixedNumber 2 1 (daysOfMonth year month) s
  return ((), s)

/-- Hours, minutes and seconds, perhaps with a fraction. A leap second is allowed. -/
def time : Reader Unit := fun s => do
  let (_, s) ← fixedNumber 2 0 23 s
  let (_, s) ← char ':' s
  let (_, s) ← fixedNumber 2 0 59 s
  let (_, s) ← char ':' s
  let (_, s) ← fixedNumber 2 0 60 s
  match s with
  | '.' :: t =>
    if (t.takeWhile Char.isDigit).isEmpty then return ((), s)
    else return ((), t.dropWhile Char.isDigit)
  | s => return ((), s)

/-- The distance from universal time, if it is given. -/
def zone (s : List Char) : List Char :=
  match s with
  | 'Z' :: s | 'z' :: s => s
  | c :: t =>
    if c == '+' || c == '-' then
      let found : Option (List Char) := do
        let (_, t) ← fixedNumber 2 0 23 t
        let (_, t) ← char ':' t
        let (_, t) ← fixedNumber 2 0 59 t
        return t
      found.getD s
    else s
  | [] => []

/-- A date, a time, or both with a letter or a space between them. -/
def moment : Reader Value := fun s =>
  match date s with
  | some (_, c :: rest) =>
    if c == 'T' || c == 't' || c == ' ' then
      match time rest with
      | some (_, rest) => some (.moment, zone rest)
      | none => some (.moment, c :: rest)
    else some (.moment, c :: rest)
  | some (_, []) => some (.moment, [])
  | none => (time s).map fun (_, s) => (.moment, s)

end GlslAssist.Toml
