import GlslAssist.Decimal.Binary64

/-!
# The shortest decimal text of a number

`shortest` finds the fewest digits that read back: it tries grids of one digit, of two, and so on,
and on each only the two points next to the number, since if any point of a grid lies in the
interval that rounds to the number, one of these does. The digits are written positionally or with
an exponent.
-/

namespace GlslAssist.Decimal

namespace Binary64

/-- The decimal `digits · 10 ^ exponent` rounds to the magnitude, which is not zero. -/
def readsBack (magnitude digits : Nat) (exponent : Int) : Bool :=
  let place := twoTo (spacing magnitude)
  let below := if magnitude = twoTo 52 * place ∧ 1 < place then place / 2 else place
  let scale := tenTo (-exponent).toNat
  let point := 2 * (digits * tenTo exponent.toNat * twoTo 1074)
  let low := (2 * magnitude - below) * scale
  let high := (2 * magnitude + place) * scale
  if (magnitude / place) % 2 = 0 then low ≤ point && point ≤ high else low < point && point < high

/-- The exponent of the leading decimal digit of a magnitude that is not zero. -/
def leadingExponent (magnitude : Nat) : Int :=
  (Nat.toDigits 10 (magnitude * tenTo 400 / twoTo 1074)).length - 401

/-- The point of a grid next to the magnitude that reads back, the nearer one if both do. -/
def onGrid (magnitude : Nat) (exponent : Int) : Option Nat :=
  let num := magnitude * tenTo (-exponent).toNat
  let den := twoTo 1074 * tenTo exponent.toNat
  let floor := num / den
  let nearer := roundQuotient num den
  let other := if nearer = floor then floor + 1 else floor
  if readsBack magnitude nearer exponent then some nearer
  else if readsBack magnitude other exponent then some other
  else none

/-- The first grid with a hit, from `tried` digits on; seventeen digits always have one. -/
def shortestFrom (magnitude : Nat) : Nat → Nat → Nat × Int
  | 0, tried => (magnitude, tried)
  | fuel + 1, tried =>
    let exponent := leadingExponent magnitude - tried
    match onGrid magnitude exponent with
    | some digits => (digits, exponent)
    | none => shortestFrom magnitude fuel (tried + 1)

/-- The shortest decimal that reads back, as digits and an exponent. -/
def shortest (magnitude : Nat) : Nat × Int :=
  if magnitude = 0 then (0, 0) else shortestFrom magnitude 17 0

def dropTrailingZeros (digits : List Char) : List Char :=
  (digits.reverse.dropWhile (· = '0')).reverse

/-- Positional text with a point, and at least one digit after it. -/
def positional (digits : Nat) (exponent : Int) : String :=
  let scale := tenTo (-exponent).toNat
  let whole := Nat.toDigits 10 (digits * tenTo exponent.toNat / scale)
  let rest := Nat.toDigits 10 (digits % scale)
  let fraction := dropTrailingZeros
    (List.replicate ((-exponent).toNat - rest.length) '0' ++ if scale = 1 then [] else rest)
  String.ofList (whole ++ '.' :: if fraction = [] then ['0'] else fraction)

/-- Text with one digit before the point, and no point if there are no others. The exponent has its
sign. -/
def exponential (digits : Nat) (exponent : Int) : String :=
  let all := Nat.toDigits 10 digits
  let lead := exponent + all.length - 1
  let rest := dropTrailingZeros (all.drop 1)
  String.ofList (all.take 1 ++ if rest = [] then [] else '.' :: rest)
    ++ (if lead < 0 then "e-" else "e+") ++ toString lead.natAbs

/-- Numbers whose leading digit stands for a power of ten between these are written positionally,
and all others with an exponent. -/
def isPlain (digits : Nat) (exponent : Int) : Bool :=
  let lead := exponent + (Nat.toDigits 10 digits).length - 1
  lead ≤ 15 && -5 ≤ lead

/-- The shortest text that reads back, the digits being written as they are told. -/
def textWith (write : Nat → Int → String) : Binary64 → String
  | finite negative magnitude =>
    let (digits, exponent) := shortest magnitude
    (if negative then "-" else "") ++ write digits exponent
  | infinite negative => if negative then "-inf" else "inf"
  | nan => "NaN"

/-- The shortest text that reads back, never with an exponent. -/
def longText : Binary64 → String :=
  textWith positional

/-- The shortest text that reads back, with an exponent where the number is very large or small. -/
def text : Binary64 → String :=
  textWith fun digits exponent =>
    if isPlain digits exponent then positional digits exponent else exponential digits exponent

end Binary64

end GlslAssist.Decimal
