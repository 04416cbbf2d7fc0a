import GlslAssist.Text.Offset
import GlslAssist.Text.Blank

/-!
# Identifier runs

Identifier characters are the ASCII letters and digits and the underscore; each is one byte and one
UTF-16 unit. `identStart` and `identEnd` walk over the bytes on either side of an offset, which may
lie inside a character, since no byte of a longer character is an identifier byte.

`trailingIdentifier` names what a parenthesis after the text would call: an identifier cannot begin
with a digit, so digits that lead the run are left out (`2.0*foo` ends in `foo`, `1x` in `x`, `42`
in nothing).
-/

namespace GlslAssist.Text

def isIdentByte (b : UInt8) : Bool :=
  (0x30 ≤ b && b ≤ 0x39) || (0x41 ≤ b && b ≤ 0x5A) || b == 0x5F || (0x61 ≤ b && b ≤ 0x7A)

def isIdentChar (c : Char) : Bool :=
  c.isAlphanum || c == '_'

/-- The start of the identifier run that ends at the offset. -/
def identStart (line : List Char) (offset : Nat) : Nat :=
  let stop := min offset (utf8Length line)
  stop - (((bytes line).take stop).reverse.takeWhile isIdentByte).length

/-- The end of the identifier run that begins at the offset. -/
def identEnd (line : List Char) (offset : Nat) : Nat :=
  let start := min offset (utf8Length line)
  start + (((bytes line).drop start).takeWhile isIdentByte).length

/-- The run of identifier characters that ends the text. -/
def trailingRun (text : List Char) : List Char :=
  (text.reverse.takeWhile isIdentChar).reverse

/-- The identifier that ends the text, blanks after it left aside. -/
def trailingIdentifier (text : List Char) : Option (List Char) :=
  match (trailingRun (trimEnd text)).dropWhile Char.isDigit with
  | [] => none
  | name => some name

theorem identStart_le (line : List Char) (offset : Nat) : identStart line offset ≤ offset :=
  Nat.le_trans (Nat.sub_le _ _) (Nat.min_le_left _ _)

theorem le_identEnd {line : List Char} {offset : Nat} (h : offset ≤ utf8Length line) :
    offset ≤ identEnd line offset := by
  simp only [identEnd, Nat.min_eq_left h]
  exact Nat.le_add_right _ _

end GlslAssist.Text
