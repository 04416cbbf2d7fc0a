import GlslAssist.Decimal.Digits
import GlslAssist.Text.Blank
import GlslAssist.Text.Offset

/-!
# Frames

On a stream of bytes every message stands in a frame: a header, an empty line, and as many bytes of
body as the header says. `next` looks at what has arrived so far. A frame it gives back is shorter
than what it was taken from (`next_rest_length_lt`), so the frames of a stream can be taken one by
one.
-/

namespace GlslAssist.Server.Frame

def lineFeed : UInt8 := 0x0A
def carriageReturn : UInt8 := 0x0D

/-- A line without its ending. -/
def dropReturn (line : List UInt8) : List UInt8 :=
  if line.getLast? = some carriageReturn then line.dropLast else line

/-- The lines before the first empty one, and what follows it. -/
def headerLines? : Nat → List UInt8 → Option (List (List UInt8) × List UInt8)
  | 0, _ => none
  | fuel + 1, s =>
    match s.dropWhile (· ≠ lineFeed) with
    | [] => none
    | _ :: rest =>
      match dropReturn (s.takeWhile (· ≠ lineFeed)) with
      | [] => some ([], rest)
      | line => (headerLines? fuel rest).map fun (lines, rest) => (line :: lines, rest)

/-- A byte of the name of a field. -/
def isNameByte (b : UInt8) : Bool :=
  let c := Char.ofNat b.toNat
  c.isAlphanum || "!#$%&*+-.^_|~".toList.contains c || c.toNat = 0x27 || c.toNat = 0x60

def isBlankByte (b : UInt8) : Bool :=
  b = 0x20 || b = 0x09

/-- A byte of the value of a field, which is a tab or no control character. -/
def isValueByte (b : UInt8) : Bool :=
  b = 0x09 || (0x20 ≤ b && b ≠ 0x7F)

def colon : UInt8 := 0x3A

/-- The name and the value of a line of the header, the value without its outer blanks. -/
def field? (line : List UInt8) : Option (List UInt8 × List UInt8) :=
  let name := line.takeWhile isNameByte
  match line.dropWhile isNameByte with
  | b :: value =>
    if name = [] ∨ b ≠ colon ∨ !value.all isValueByte then none
    else some (name, ((value.dropWhile isBlankByte).reverse.dropWhile isBlankByte).reverse)
  | [] => none

/-- The texts that a field has, where they are texts. -/
def valuesOf? (name : String) (fields : List (List UInt8 × List UInt8)) :
    Option (List (List Char)) :=
  (fields.filter (·.1 = Text.bytes name.toList)).mapM fun f =>
    (String.fromUTF8? ⟨f.2.toArray⟩).map String.toList

def length? (value : List Char) : Option Nat :=
  if value.head? = some '-' then none
  else (Decimal.integer? value).bind (Decimal.below? Decimal.longLimit)

/-- The content type names the only encoding that there is. -/
def isReadable (contentType : List Char) : Bool :=
  let parameters := ((contentType.splitOn ';').drop 1).map Text.trim
  let key := "charset=".toList
  match parameters.find? key.isPrefixOf with
  | some p => p.drop key.length = "utf-8".toList || p.drop key.length = "utf8".toList
  | none => false

/-- How many lines a header may have. -/
def headerLimit : Nat := 2

/-- The length of the body that a header announces. -/
def bodyLength? (lines : List (List UInt8)) : Option Nat :=
  if headerLimit < lines.length then none
  else
    (lines.mapM field?).bind fun fields =>
      match valuesOf? "Content-Type" fields, valuesOf? "Content-Length" fields with
      | some types, some lengths =>
        if types.all isReadable then (lengths.mapM length?).bind List.getLast? else none
      | _, _ => none

/-- What a stream begins with. -/
inductive Step where
  /-- More bytes have to come; without them, a header without any body is passed over. -/
  | incomplete (isBare : Bool)
  | broken
  | whole (body rest : List UInt8)
  deriving DecidableEq, Repr

def next (s : List UInt8) : Step :=
  if s = [] then .incomplete true
  else
    match headerLines? (s.length + 1) s with
    | none => .incomplete false
    | some (lines, rest) =>
      match bodyLength? lines with
      | none => .broken
      | some n =>
        if rest.length < n then .incomplete rest.isEmpty
        else .whole (rest.take n) (rest.drop n)

/-- The frame around a body. -/
def enclose (body : String) : String :=
  "Content-Length: " ++ toString (Text.utf8Length body.toList) ++ "\r\n\r\n" ++ body

theorem headerLines?_rest_length_lt {fuel : Nat} {s rest : List UInt8} {lines : List (List UInt8)}
    (h : headerLines? fuel s = some (lines, rest)) : rest.length < s.length := by
  induction fuel generalizing s lines with
  | zero => simp [headerLines?] at h
  | succ fuel ih =>
    unfold headerLines? at h
    split at h
    · cases h
    · next c tail hd =>
      have shorter : tail.length < s.length := by
        have := (List.dropWhile_sublist (· ≠ lineFeed) (l := s)).length_le
        rw [hd] at this
        exact this
      split at h
      · cases h; exact shorter
      · obtain ⟨⟨lines', rest'⟩, hr, heq⟩ := Option.map_eq_some_iff.1 h
        cases heq
        exact Nat.lt_trans (ih hr) shorter

theorem next_rest_length_lt {s body rest : List UInt8} (h : next s = .whole body rest) :
    rest.length < s.length := by
  unfold next at h
  split at h
  · cases h
  · split at h
    · cases h
    · next lines after hl =>
      split at h
      · cases h
      · split at h
        · cases h
        · cases h
          have := headerLines?_rest_length_lt hl
          simp only [List.length_drop]
          omega

end GlslAssist.Server.Frame
