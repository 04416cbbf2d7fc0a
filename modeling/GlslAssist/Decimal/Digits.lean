/-!
# Digits, signs and powers

The pieces from which every reader of decimal numbers is made.
-/

namespace GlslAssist.Decimal

def twoTo (n : Nat) : Nat := Nat.pow 2 n
def tenTo (n : Nat) : Nat := Nat.pow 10 n

/-- How many numbers there are of thirty-two bits, and of sixty-four. -/
def wordLimit : Nat := 4294967296
def longLimit : Nat := 18446744073709551616

/-- The natural number that decimal digits stand for. -/
def ofDigits (digits : List Char) : Nat :=
  digits.foldl (fun n c => 10 * n + (c.toNat - '0'.toNat)) 0

/-- A sign, if there is one, `true` for minus. -/
def splitSign : List Char → Bool × List Char
  | '-' :: s => (true, s)
  | '+' :: s => (false, s)
  | s => (false, s)

/-- An integer written with at least one digit, perhaps after a sign. -/
def integer? (s : List Char) : Option Int :=
  let (negative, digits) := splitSign s
  if digits.isEmpty || !digits.all Char.isDigit then none
  else some (if negative then -(ofDigits digits : Int) else ofDigits digits)

/-- The natural number below a limit that an integer is. -/
def below? (limit : Nat) (n : Int) : Option Nat :=
  if 0 ≤ n ∧ n < limit then some n.toNat else none

end GlslAssist.Decimal
