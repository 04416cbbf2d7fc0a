/-!
# Searching

Whether one text occurs in another.
-/

namespace GlslAssist.Text

/-- The needle occurs in the text. -/
def occursIn (needle : List Char) : List Char → Bool
  | [] => needle.isEmpty
  | c :: s => needle.isPrefixOf (c :: s) || occursIn needle s

end GlslAssist.Text
