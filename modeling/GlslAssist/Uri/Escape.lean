import GlslAssist.Text.Hex
import GlslAssist.Text.Offset

/-!
# Percent signs

A byte that may not stand in some part of a URI is written as a percent sign and two digits. Each
part has its own set of characters that are written so; controls and all that is not ASCII are
written so everywhere.
-/

namespace GlslAssist.Uri

/-! ## Decoding -/

/-- The byte that two digits after a percent sign stand for, and what follows them. -/
def percentByte? : List Char → Option (UInt8 × List Char)
  | '%' :: a :: b :: rest =>
    match Text.hexValue? a, Text.hexValue? b with
    | some x, some y => some (UInt8.ofNat (16 * x + y), rest)
    | _, _ => none
  | _ => none

theorem percentByte?_length_lt {s rest : List Char} {b : UInt8}
    (h : percentByte? s = some (b, rest)) : rest.length < s.length := by
  unfold percentByte? at h
  split at h
  · split at h
    · cases h; simp only [List.length_cons]; omega
    · cases h
  · cases h

/-- The bytes of a text in which a percent sign and two digits stand for one byte. -/
def percentDecoded : List Char → List UInt8
  | [] => []
  | c :: s =>
    match _ : percentByte? (c :: s) with
    | some (b, rest) => b :: percentDecoded rest
    | none => String.utf8EncodeChar c ++ percentDecoded s
termination_by s => s.length
decreasing_by
  · exact percentByte?_length_lt ‹_›
  · simp

/-! ## Encoding -/

/-- The part of a URI in which a character stands. -/
inductive Part where
  /-- The user and the password. -/
  | user
  /-- A host of no special scheme. -/
  | host
  /-- A path that starts with a slash. -/
  | path
  /-- A path that does not. -/
  | bare
  | query
  /-- The query of a special scheme. -/
  | specialQuery
  | fragment
  deriving DecidableEq, Repr

/-- The printed characters that a part cannot hold. -/
def Part.escaped : Part → List Char
  | host | bare => []
  | query => [' ', '"', '#', '<', '>']
  | specialQuery => [' ', '"', '#', '<', '>', Char.ofNat 0x27]
  | fragment => [' ', '"', '<', '>', Char.ofNat 0x60]
  | path => [' ', '"', '#', '<', '>', '?', Char.ofNat 0x60, '\x7b', '\x7d']
  | user =>
    [' ', '"', '#', '<', '>', '?', Char.ofNat 0x60, '\x7b', '\x7d',
      '/', ':', ';', '=', '@', '[', '\\', ']', '^', '|']

def percentText (b : UInt8) : List Char :=
  let digit (n : Nat) : Char := (Text.hexDigit n).toUpper
  ['%', digit (b.toNat / 16), digit (b.toNat % 16)]

def isPrinted (c : Char) : Bool :=
  0x20 ≤ c.toNat && c.toNat < 0x7F

/-- A character as it is written in some part. -/
def Part.encodeChar (part : Part) (c : Char) : List Char :=
  if isPrinted c && !part.escaped.contains c then [c]
  else (String.utf8EncodeChar c).flatMap percentText

def Part.encode (part : Part) (s : List Char) : List Char :=
  s.flatMap part.encodeChar

end GlslAssist.Uri
