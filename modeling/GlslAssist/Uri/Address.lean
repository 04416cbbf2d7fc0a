import GlslAssist.Decimal.Digits
import GlslAssist.Text.Hex

/-!
# Numeric addresses

A host may be a number: one of four bytes, or one of eight groups of sixteen bits. Both have many
spellings and one normal text. In the text of eight groups the longest run of zeros, the first one
of several, stands as two colons, if it has at least two groups.
-/

namespace GlslAssist.Uri

/-! ## Four bytes -/

/-- A number in digits of a base. -/
def numberIn? (base : Nat) (digits : List Char) : Option Nat :=
  digits.foldlM (fun n c =>
    (Text.hexValue? c).bind fun d => if d < base then some (base * n + d) else none) 0

/-- A part of an address, in hexadecimal after `0x`, in octal after another zero. -/
def ipv4Part? : List Char → Option Nat
  | [] => none
  | ['0'] => some 0
  | '0' :: c :: s => if c == 'x' || c == 'X' then numberIn? 16 s else numberIn? 8 (c :: s)
  | s => numberIn? 10 s

/-- The parts between points, the last one left out if it is empty. -/
def ipv4Parts (s : List Char) : List (List Char) :=
  let parts := s.splitOn '.'
  if parts.getLast? = some [] then parts.dropLast else parts

/-- The last part is a number, so the whole has to be an address. -/
def endsInNumber (s : List Char) : Bool :=
  match (ipv4Parts s).getLast? with
  | none => false
  | some part => (part ≠ [] && part.all Char.isDigit) || (ipv4Part? part).isSome

/-- An address of at most four parts. All but the last are bytes; the last fills what is left. -/
def ipv4? (s : List Char) : Option Nat :=
  let parts := ipv4Parts s
  if 4 < parts.length then none
  else
    (parts.mapM ipv4Part?).bind fun numbers =>
      match numbers.getLast? with
      | none => none
      | some last =>
        let bytes := numbers.dropLast
        if bytes.any (255 < ·) || Nat.pow 256 (4 - bytes.length) ≤ last then none
        else
          let places := (List.range bytes.length).map fun i => Nat.pow 256 (3 - i)
          some ((bytes.zipWith (· * ·) places).foldl (· + ·) last)

def ipv4Text (address : Nat) : String :=
  let byte (place : Nat) : String := toString (address / Nat.pow 256 place % 256)
  String.intercalate "." [byte 3, byte 2, byte 1, byte 0]

/-! ## Eight groups -/

/-- One byte in decimal, without needless zeros. -/
def byte? (s : List Char) : Option Nat :=
  if s.isEmpty || (1 < s.length && s.head? = some '0') then none
  else (numberIn? 10 s).bind fun n => if n ≤ 255 then some n else none

/-- Four bytes as two groups. -/
def groupPair? (s : List Char) : Option (List Nat) :=
  match (s.splitOn '.').mapM byte? with
  | some [a, b, c, d] => some [256 * a + b, 256 * c + d]
  | _ => none

def group? (s : List Char) : Option Nat :=
  if s.isEmpty || 4 < s.length then none else Text.hexNumber? s

/-- Groups with colons between them. The last may be two groups as four bytes. -/
def groups? (mayEndInBytes : Bool) : List (List Char) → Option (List Nat)
  | [] => some []
  | [last] =>
    match group? last with
    | some n => some [n]
    | none => if mayEndInBytes then groupPair? last else none
  | first :: rest =>
    (group? first).bind fun n => (groups? mayEndInBytes rest).map fun ns => n :: ns

/-- What stands on the sides of the first two colons together. -/
def splitAtGap : List Char → Option (List Char × List Char)
  | [] => none
  | ':' :: ':' :: s => some ([], s)
  | c :: s => (splitAtGap s).map fun (before, after) => (c :: before, after)

def side? (mayEndInBytes : Bool) (s : List Char) : Option (List Nat) :=
  if s.isEmpty then some [] else groups? mayEndInBytes (s.splitOn ':')

/-- Eight groups, of which two colons together may leave out some that are zero. -/
def ipv6? (s : List Char) : Option (List Nat) :=
  match splitAtGap s with
  | none => (groups? true (s.splitOn ':')).bind fun ns => if ns.length = 8 then some ns else none
  | some (before, after) =>
    (side? false before).bind fun before =>
      (side? true after).bind fun after =>
        let given := before.length + after.length
        if 7 < given then none else some (before ++ List.replicate (8 - given) 0 ++ after)

/-- How many zeros stand at each place and after it without a break. -/
def zeroRuns : List Nat → List Nat
  | [] => []
  | n :: ns =>
    let runs := zeroRuns ns
    (if n = 0 then runs.headD 0 + 1 else 0) :: runs

def colonText (groups : List Nat) : String :=
  String.intercalate ":" (groups.map fun n => String.ofList (Nat.toDigits 16 n))

def ipv6Text (groups : List Nat) : String :=
  let runs := zeroRuns groups
  let longest := runs.foldl max 0
  if longest < 2 then colonText groups
  else
    let start := runs.findIdx (· == longest)
    colonText (groups.take start) ++ "::" ++ colonText (groups.drop (start + longest))

end GlslAssist.Uri
