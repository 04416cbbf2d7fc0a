import GlslAssist.Decimal.Binary64

/-!
# TOML values

A document comes to a table. Tables are lists of entries without repeated keys, in the order in
which they were completed. A date or time is only known to be one.
-/

namespace GlslAssist.Toml

inductive Value where
  | string (s : String)
  | integer (n : Int)
  | float (x : Decimal.Binary64)
  | boolean (b : Bool)
  | moment
  | array (items : List Value)
  | table (entries : List (String × Value))
  deriving Repr, Inhabited

/-- The entries of a table. -/
abbrev Entries := List (String × Value)

end GlslAssist.Toml
