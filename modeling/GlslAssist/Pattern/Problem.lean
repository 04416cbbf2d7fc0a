/-!
# Problems of expressions

Why a text is not a regular expression that can be searched for: because of how it is written, or
because of what it asks for. Classes, properties and cases of characters are known for ASCII alone.
-/

namespace GlslAssist.Pattern

inductive Problem where
  -- groups and repetitions
  | unclosedGroup
  | unopenedGroup
  | tooDeep
  | lookAround
  | emptyName
  | badNameCharacter
  | unclosedName
  | repeatedName
  | danglingMinus
  | repeatedMinus
  | repeatedFlag
  | unknownFlag
  | unclosedFlags
  | nothingToRepeat
  | unclosedCount
  | emptyCount
  | badCount
  | reversedCount
  -- escapes and sets
  | unclosedEscape
  | unknownEscape
  | reference
  | emptyHex
  | badHex
  | badHexDigit
  | unclosedEdge
  | unknownEdge
  | unclosedEdgeOrCount
  | badProperty
  | unclosedSet
  | escapeInSet
  | reversedRange
  | noRangeCharacter
  -- what is not there or not allowed
  | noClassTable
  | noProperty
  | noPropertyValue
  | noCaseTable
  | notUtf8
  | foreignCharacter
  | noWordTable
  | tooLarge
  deriving DecidableEq, Repr

/-- The most groups and sets that may stand inside each other. -/
def depthLimit : Nat := 250

def Problem.message : Problem → String
  | unclosedGroup => "unclosed group"
  | unopenedGroup => "unopened group"
  | tooDeep =>
    "exceed the maximum number of nested parentheses/brackets (" ++ toString depthLimit ++ ")"
  | lookAround => "look-around, including look-ahead and look-behind, is not supported"
  | emptyName => "empty capture group name"
  | badNameCharacter => "invalid capture group character"
  | unclosedName => "unclosed capture group name"
  | repeatedName => "duplicate capture group name"
  | danglingMinus => "dangling flag negation operator"
  | repeatedMinus => "flag negation operator repeated"
  | repeatedFlag => "duplicate flag"
  | unknownFlag => "unrecognized flag"
  | unclosedFlags => "expected flag but got end of regex"
  | nothingToRepeat => "repetition operator missing expression"
  | unclosedCount => "unclosed counted repetition"
  | emptyCount => "repetition quantifier expects a valid decimal"
  | badCount => "decimal literal invalid"
  | reversedCount => "invalid repetition count range, the start must be <= the end"
  | unclosedEscape => "incomplete escape sequence, reached end of pattern prematurely"
  | unknownEscape => "unrecognized escape sequence"
  | reference => "backreferences are not supported"
  | emptyHex => "hexadecimal literal empty"
  | badHex => "hexadecimal literal is not a Unicode scalar value"
  | badHexDigit => "invalid hexadecimal digit"
  | unclosedEdge =>
    "special word boundary assertion is either unclosed or contains an invalid character"
  | unknownEdge =>
    "unrecognized special word boundary assertion, valid choices are: start, end, start-half or "
      ++ "end-half"
  | unclosedEdgeOrCount =>
    "found either the beginning of a special word boundary or a bounded repetition on a \\b with "
      ++ "an opening brace, but no closing brace"
  | badProperty => "invalid Unicode character class"
  | unclosedSet => "unclosed character class"
  | escapeInSet => "invalid escape sequence found in character class"
  | reversedRange => "invalid character class range, the start must be <= the end"
  | noRangeCharacter => "invalid range boundary, must be a literal"
  | noClassTable =>
    "Unicode-aware Perl class not found (make sure the unicode-perl feature is enabled)"
  | noProperty => "Unicode property not found"
  | noPropertyValue => "Unicode property value not found"
  | noCaseTable =>
    "Unicode-aware case insensitivity matching is not available (make sure the unicode-case "
      ++ "feature is enabled)"
  | notUtf8 => "pattern can match invalid UTF-8"
  | foreignCharacter => "Unicode not allowed here"
  | noWordTable => "error building NFA"
  | tooLarge => "Compiled regex exceeds size limit of 10485760 bytes."

/-- What is reported of an expression that is left out. Where the text is at fault, the report names
that in a line of its own. -/
def Problem.report (p : Problem) : List String :=
  let warning := "warning: invalid regex filter - "
  match p with
  | noWordTable | tooLarge => [warning ++ p.message ++ ", ignoring it"]
  | p => [warning ++ "regex parse error:", "error: " ++ p.message ++ ", ignoring it"]

end GlslAssist.Pattern
