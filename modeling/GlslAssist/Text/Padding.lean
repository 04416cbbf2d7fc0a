/-!
# Padding

Text brought to a width that counts characters. Text that is already wider is kept.
-/

namespace GlslAssist.Text

/-- Where the text stands in its field. -/
inductive Alignment where
  | left
  | right
  | center
  deriving DecidableEq, Repr

/-- Fills with spaces up to a width. The odd space of centred text goes to its right. -/
def pad (alignment : Alignment) (width : Nat) (s : List Char) : List Char :=
  let missing := width - s.length
  let spaces (n : Nat) := List.replicate n ' '
  match alignment with
  | .left => s ++ spaces missing
  | .right => spaces missing ++ s
  | .center => spaces (missing / 2) ++ s ++ spaces (missing - missing / 2)

def padRight (width : Nat) (s : String) : String :=
  String.ofList (pad .left width s.toList)

theorem pad_length (alignment : Alignment) (width : Nat) (s : List Char) :
    (pad alignment width s).length = max s.length width := by
  cases alignment <;> simp [pad] <;> omega

end GlslAssist.Text
