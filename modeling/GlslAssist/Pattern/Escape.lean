import GlslAssist.Pattern.Remainder
import GlslAssist.Text.Hex

/-!
# Single things of an expression

Characters, classes and edges, most of them written with a backslash, and what they ask for under
the flags that hold where they stand.
-/

namespace GlslAssist.Pattern.Reading

/-- What a backslash and the characters after it stand for. -/
inductive Escaped where
  /-- A character; it may be meant as a byte if it is written with two digits. -/
  | character (c : Char) (isByte : Bool)
  | named (set : CharSet) (isNegated : Bool)
  /-- A class of characters of a standard, none of which is known. -/
  | property (problem : Problem)
  | edge (kind : Edge)

def isHexDigit (c : Char) : Bool :=
  (Text.hexValue? c).isSome

/-- The character that digits stand for. -/
def characterOf (digits : List Char) : Reading Char :=
  match (Text.hexNumber? digits).bind Text.scalar? with
  | some c => return c
  | none => throw .badHex

/-- So many hexadecimal digits. -/
def hexDigits : Nat → Reading (List Char)
  | 0 => return []
  | n + 1 => do
    let c ← need .unclosedEscape
    if !isHexDigit c then throw .badHexDigit
    advanceAndSkip
    return c :: (← hexDigits n)

def hexCharacter (count : Nat) : Reading Escaped := do
  advanceAndSkip
  if (← need .unclosedEscape) = '\x7b' then
    advanceAndSkip
    let digits ← runOf isHexDigit
    if (← need .unclosedEscape) ≠ '\x7d' then throw .badHexDigit
    advanceAndSkip
    if digits.isEmpty then throw .emptyHex
    return .character (← characterOf digits) false
  else return .character (← characterOf (← hexDigits count)) (count = 2)

/-- What is wrong with a property: three names are those of values alone. -/
def propertyProblem (name : List Char) : Problem :=
  let plain := (name.map Char.toLower).filter fun c => c ≠ ' ' ∧ c ≠ '_' ∧ c ≠ '-'
  let plain := if ['i', 's'].isPrefixOf plain then plain.drop 2 else plain
  if ["cf".toList, "sc".toList, "lc".toList].contains plain then .noPropertyValue else .noProperty

def property : Reading Escaped := do
  advanceAndSkip
  let c ← need .unclosedEscape
  if c = '\x7b' then
    advanceAndSkip
    let name ← runOf (· ≠ '\x7d')
    let _ ← need .unclosedEscape
    advance
    return .property (propertyProblem name)
  else if c = '\\' then throw .badProperty
  else
    advanceAndSkip
    return .property .noProperty

/-- The edge of a name in braces; nothing if what follows is a repetition. -/
def namedEdge? : Reading (Option Edge) := do
  let start := (← get).rest
  advanceAndSkip
  let isNameChar (c : Char) : Bool := c.isAlpha || c == '-'
  if !isNameChar (← need .unclosedEdgeOrCount) then
    leave start
    return none
  let name ← runOf isNameChar
  if (← look) ≠ some '\x7d' then throw .unclosedEdge
  advance
  match String.ofList name with
  | "start" => return some .wordStart
  | "end" => return some .wordEnd
  | "start-half" => return some .wordStartHalf
  | "end-half" => return some .wordEndHalf
  | _ => throw .unknownEdge

/-- The edge that a letter stands for. -/
def edgeOf (c : Char) : Reading (Option Edge) := do
  match c with
  | 'A' => return some .textStart
  | 'z' => return some .textEnd
  | 'B' => return some .noWord
  | '<' => return some .wordStart
  | '>' => return some .wordEnd
  | 'b' =>
    if (← look) = some '\x7b' then return ((← namedEdge?).getD .word) else return some .word
  | _ => return none

/-- The character that a letter stands for. -/
def controlOf? (c : Char) : Option Char :=
  match c with
  | 'a' => some (Char.ofNat 0x07)
  | 'f' => some (Char.ofNat 0x0C)
  | 't' => some '\t'
  | 'n' => some '\n'
  | 'r' => some '\r'
  | 'v' => some (Char.ofNat 0x0B)
  | _ => none

/-- The class that a letter stands for. -/
def classOf? (c : Char) : Option Escaped :=
  match c with
  | 'd' => some (.named CharSet.digits false)
  | 'D' => some (.named CharSet.digits true)
  | 's' => some (.named CharSet.spaces false)
  | 'S' => some (.named CharSet.spaces true)
  | 'w' => some (.named CharSet.wordChars false)
  | 'W' => some (.named CharSet.wordChars true)
  | _ => none

/-- The character stands for itself after a backslash. -/
def standsForItself (c : Char) : Bool :=
  c.toNat < 0x80 && !c.isAlphanum && c ≠ '<' && c ≠ '>'

def escape : Reading Escaped := do
  advance
  let c ← need .unclosedEscape
  if c.isDigit then throw .reference
  if c = 'x' then return ← hexCharacter 2
  if c = 'u' then return ← hexCharacter 4
  if c = 'U' then return ← hexCharacter 8
  if c = 'p' ∨ c = 'P' then return ← property
  advance
  if let some escaped := classOf? c then return escaped
  if standsForItself c then return .character c false
  if let some c := controlOf? c then return .character c false
  match ← edgeOf c with
  | some kind => return .edge kind
  | none => throw .unknownEscape

/-! ## What things ask for -/

/-- A set with the letters of both cases if these are not told apart, perhaps its complement. -/
def finished (isNegated : Bool) (set : CharSet) : Reading CharSet := do
  let f ← flags
  if f.anyCase ∧ f.foreign then complain .noCaseTable
  let set := if f.anyCase then CharSet.eitherCase set else set
  let set := if isNegated then CharSet.complement set else set
  if !f.foreign ∧ !set.isAscii then complain .notUtf8
  return set

/-- A class that has a letter. -/
def namedSet (set : CharSet) (isNegated : Bool) : Reading CharSet := do
  if (← flags).foreign then complain .noClassTable
  else if isNegated then complain .notUtf8
  return if isNegated then .complement set else set

def propertySet (problem : Problem) : Reading CharSet := do
  complain (if (← flags).foreign then problem else .foreignCharacter)
  return .none

/-- Looks at a character in a set. -/
def checkMember (c : Char) (isByte : Bool) : Reading Unit := do
  if !(← flags).foreign ∧ 0x7F < c.toNat then
    complain (if isByte then .notUtf8 else .foreignCharacter)

/-- A character that stands for itself. -/
def character (c : Char) (isByte : Bool) : Reading Pattern := do
  let f ← flags
  if f.foreign then
    if f.anyCase then complain .noCaseTable
  else if isByte ∧ 0x7F < c.toNat then complain .notUtf8
  return .one (if f.anyCase then .eitherCase (.single c) else .single c)

def dot : Reading Pattern := do
  let f ← flags
  if !f.foreign then complain .notUtf8
  return .one (if f.dotIsAll then .all
    else if f.anyLineEnd then .complement (.union (.single '\n') (.single '\r'))
    else .complement (.single '\n'))

/-- An edge of words asks for words of any characters, unless flags say otherwise. -/
def wordEdge (kind : Edge) : Reading Edge := do
  match kind with
  | .word | .noWord | .wordStart | .wordEnd | .wordStartHalf | .wordEndHalf =>
    return if (← flags).foreign then .foreignWord else kind
  | kind => return kind

/-- An end of the text, or of a line if flags say so. -/
def lineEdge (plain ofLine ofAnyLine : Edge) : Reading Edge := do
  let f ← flags
  return if !f.byLine then plain else if f.anyLineEnd then ofAnyLine else ofLine

def ofEscape : Escaped → Reading Pattern
  | .character c isByte => character c isByte
  | .named set isNegated => do return .one (← namedSet set isNegated)
  | .property problem => do return .one (← propertySet problem)
  | .edge kind => do return .edge (← wordEdge kind)

/-- An expression of a single thing. -/
def single (c : Char) : Reading Piece := do
  match c with
  | '\\' => return leaf (← ofEscape (← escape))
  | '.' =>
    advance
    return leaf (← dot)
  | '^' =>
    advance
    return leaf (.edge (← lineEdge .textStart .lineStart .anyLineStart))
  | '$' =>
    advance
    return leaf (.edge (← lineEdge .textEnd .lineEnd .anyLineEnd))
  | c =>
    advance
    return leaf (← character c false)

end GlslAssist.Pattern.Reading
