import GlslAssist.Text.Hex

/-!
# Labels in ASCII

A label with characters beyond ASCII is written with its ASCII characters first, and then with
letters and digits that say which others stand where. Each of these is a step in an order of all
characters and places; a step is written in digits of a base that varies with the sizes of the steps
before.
-/

namespace GlslAssist.Uri.Domain.Punycode

/-- The base of the digits. -/
def base : Nat := 36

/-- The first character that is not ASCII. -/
def firstForeign : Nat := 0x80

/-- The threshold that belongs to a place of a step, under a bias. -/
def threshold (bias place : Nat) : Nat :=
  min 26 (max 1 (place - bias))

/-- Reduces a step to the bias that it leads to. -/
def biasOf : Nat → Nat → Nat → Nat
  | 0, k, _ => k
  | fuel + 1, k, delta =>
    if 455 < delta then biasOf fuel (k + base) (delta / 35) else k + 36 * delta / (delta + 38)

/-- The bias after a step to a text of `count` characters. -/
def adapt (delta count : Nat) (isFirst : Bool) : Nat :=
  let delta := if isFirst then delta / 700 else delta / 2
  biasOf 64 0 (delta + delta / count)

/-! ## Writing -/

def digit (n : Nat) : Char :=
  if n < 26 then Char.ofNat (0x61 + n) else Char.ofNat (0x30 + n - 26)

/-- The digits of a step. -/
def digits : Nat → Nat → Nat → Nat → List Char
  | 0, _, _, q => [digit q]
  | fuel + 1, bias, place, q =>
    let t := threshold bias place
    if q < t then [digit q]
    else digit (t + (q - t) % (base - t))
      :: digits fuel bias (place + base) ((q - t) / (base - t))

/-- What is kept while steps are written. -/
structure Writing where
  delta : Nat
  bias : Nat
  done : Nat
  text : List Char

/-- Passes a character of the label while those of one code point are written. -/
def pass (count point : Nat) (w : Writing) (c : Char) : Writing :=
  if c.toNat < point then { w with delta := w.delta + 1 }
  else if c.toNat = point then
    ⟨0, adapt w.delta (w.done + 1) (w.done = count), w.done + 1,
      w.text ++ digits 64 w.bias base w.delta⟩
  else w

/-- Writes the code points from the least on. -/
def write (count : Nat) (label : List Char) : Nat → Nat → Writing → Writing
  | 0, _, w => w
  | fuel + 1, point, w =>
    match (label.map Char.toNat).filter (point ≤ ·) |>.min? with
    | none => w
    | some next =>
      let w := { w with delta := w.delta + (next - point) * (w.done + 1) }
      let w := label.foldl (pass count next) w
      write count label fuel (next + 1) { w with delta := w.delta + 1 }

def encode (label : List Char) : List Char :=
  let plain := label.filter (·.toNat < firstForeign)
  let head := if plain.isEmpty then [] else plain ++ ['-']
  (write plain.length label label.length firstForeign ⟨0, 72, plain.length, head⟩).text

/-! ## Reading -/

def digitValue? (c : Char) : Option Nat :=
  if c.isDigit then some (c.toNat - 0x30 + 26)
  else if c.isAlpha then some (c.toLower.toNat - 0x61)
  else none

/-- The step that digits begin with, counted from `sum`, and what follows it. -/
def step? (bias : Nat) : Nat → Nat → Nat → List Char → Option (Nat × List Char)
  | _, _, _, [] => none
  | place, weight, sum, c :: rest =>
    (digitValue? c).bind fun d =>
      let t := threshold bias place
      let sum := sum + d * weight
      if d < t then some (sum, rest) else step? bias (place + base) (weight * (base - t)) sum rest

/-- Carries out the steps of a text on a label. -/
def read? : Nat → Nat → Nat → Nat → List Char → List Char → Option (List Char)
  | _, _, _, _, label, [] => some label
  | 0, _, _, _, _, _ => none
  | fuel + 1, point, place, bias, label, s =>
    (step? bias base 1 place s).bind fun (sum, rest) =>
      let count := label.length + 1
      let point := point + sum / count
      let spot := sum % count
      (Text.scalar? point).bind fun c =>
        read? fuel point (spot + 1) (adapt (sum - place) count (place = 0))
          (label.take spot ++ c :: label.drop spot) rest

/-- The label that a text stands for. -/
def decode? (s : List Char) : Option (List Char) :=
  let tail := (s.reverse.takeWhile (· ≠ '-')).reverse
  let plain := s.take (s.length - tail.length - 1)
  let tail := if plain.isEmpty then s else tail
  read? s.length firstForeign 0 72 plain tail

end GlslAssist.Uri.Domain.Punycode
