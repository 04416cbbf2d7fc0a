import GlslAssist.Text.Quoted

/-!
# Values of the wrong shape

Settings and request parameters come as trees that have to fit a declared shape. A reader stops at
the first part that does not and says what it found there and what it wanted.
-/

namespace GlslAssist

/-- What stands in place of the value that was wanted. -/
inductive Found where
  | integer (n : Int)
  /-- A number with a fraction, as it is written where it stands. -/
  | float (written : String)
  | boolean (b : Bool)
  | text (s : String)
  | list
  | map
  | null
  deriving DecidableEq, Repr

/-- How a tree fails to fit its shape. -/
inductive Mismatch where
  | unknownField (name : String) (known : List String)
  | missingField (name : String)
  | wrongType (found : Found) (expected : String)
  | wrongValue (found : Found) (expected : String)
  | wrongLength (count : Nat) (expected : String)
  /-- A text that its kind has no reading for. -/
  | wrongText (problem text : String)
  | unknownVariant (name : String) (known : List String)
  /-- A value that fits none of several shapes. -/
  | noVariant (name : String)
  deriving DecidableEq, Repr

def Found.message : Found → String
  | integer n => "integer `" ++ toString n ++ "`"
  | float written => "floating point `" ++ written ++ "`"
  | boolean b => "boolean `" ++ (if b then "true" else "false") ++ "`"
  | text s => "string " ++ Text.quoted s
  | list => "sequence"
  | map => "map"
  | null => "null"

/-- The names that were allowed, as a message lists them. -/
def Mismatch.choices (known : List String) : String :=
  let marked := known.map fun name => "`" ++ name ++ "`"
  match marked with
  | [] => "there are none"
  | [only] => "expected " ++ only
  | [one, other] => "expected " ++ one ++ " or " ++ other
  | _ => "expected one of " ++ String.intercalate ", " marked

def Mismatch.message : Mismatch → String
  | unknownField name known => "unknown field `" ++ name ++ "`, " ++ choices known
  | missingField name => "missing field `" ++ name ++ "`"
  | wrongType found expected => "invalid type: " ++ found.message ++ ", expected " ++ expected
  | wrongValue found expected => "invalid value: " ++ found.message ++ ", expected " ++ expected
  | wrongLength count expected => "invalid length " ++ toString count ++ ", expected " ++ expected
  | wrongText problem text => problem ++ ": " ++ Text.quoted text
  | unknownVariant name known => "unknown variant `" ++ name ++ "`, " ++ choices known
  | noVariant name => "data did not match any variant of untagged enum " ++ name

end GlslAssist
