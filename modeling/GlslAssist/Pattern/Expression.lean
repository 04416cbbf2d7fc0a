import GlslAssist.Decimal.Digits
import GlslAssist.Pattern.Brackets

/-!
# Regular expressions

The pattern that a regular expression stands for. Things stand one after another or, with bars
between them, for each other; parentheses make groups, and a group may set flags for itself.
-/

namespace GlslAssist.Pattern

namespace Reading

/-- The flags with one more of them set or taken back. -/
def withFlag (f : Flags) (isSet : Bool) (letter : Char) : Flags :=
  match letter with
  | 'i' => { f with anyCase := isSet }
  | 'm' => { f with byLine := isSet }
  | 's' => { f with dotIsAll := isSet }
  | 'u' => { f with foreign := isSet }
  | 'R' => { f with anyLineEnd := isSet }
  | 'x' => { f with spaced := isSet }
  | _ => f

/-- The flags after some letters, those behind the hyphen being taken back. -/
def withFlags (f : Flags) (letters : List Char) : Flags :=
  let set := letters.takeWhile (· ≠ '-')
  let unset := letters.dropWhile (· ≠ '-')
  unset.foldl (withFlag · false ·) (set.foldl (withFlag · true ·) f)

def setFlags (f : Flags) : Reading Unit :=
  modify fun r => { r with flags := f }

/-- The letters of flags up to a colon or the end of the group. -/
def flagLetters : Nat → List Char → Reading (List Char)
  | 0, letters => return letters
  | fuel + 1, letters => do
    let c ← need .unclosedFlags
    if c = ':' ∨ c = ')' then
      if letters.getLast? = some '-' then throw .danglingMinus else return letters
    else
      if c = '-' ∧ letters.contains c then throw .repeatedMinus
      if !"-imsUuRx".toList.contains c then throw .unknownFlag
      if letters.contains c then throw .repeatedFlag
      advance
      flagLetters fuel (letters ++ [c])

/-! ## Groups and repetitions -/

/-- Letters beyond ASCII are not told from other characters. -/
def isNameChar (isFirst : Bool) (c : Char) : Bool :=
  c.isAlpha || c == '_' || 0x80 ≤ c.toNat
    || (!isFirst && (c.isDigit || c == '.' || c == '[' || c == ']'))

/-- The name of a group up to its closing bracket. -/
def nameRest : Nat → List Char → Reading (List Char)
  | 0, name => return name
  | fuel + 1, name => do
    let c ← need .unclosedName
    if c = '>' then return name
    else
      if !isNameChar name.isEmpty c then throw .badNameCharacter
      advance
      nameRest fuel (name ++ [c])

def groupName : Reading Unit := do
  let name ← nameRest ((← get).rest.length + 1) []
  advance
  if name.isEmpty then throw .emptyName
  if (← get).names.contains name then throw .repeatedName
  modify fun r => { r with names := name :: r.names }

/-- The rest of a group after its head. The flags in it end with it. -/
def groupRest (inner : Reading Piece) (before : Flags) : Reading Piece := do
  let piece ← inner
  if (← look) ≠ some ')' then throw .unclosedGroup
  setFlags before
  advance
  return ⟨piece.pattern, piece.depth + 1, false⟩

/-- A group from its opening parenthesis to its end, or a setting of flags. -/
def group (inner : Reading Piece) : Reading Piece := do
  advance
  skip
  for ahead in ["?=", "?!", "?<=", "?<!"] do
    if ← takes ahead then throw .lookAround
  let before ← flags
  if (← takes "?P<") || (← takes "?<") then
    groupName
    groupRest inner before
  else if ← takes "?" then
    let _ ← need .unclosedGroup
    let letters ← flagLetters ((← get).rest.length + 1) []
    let isSetting := (← look) = some ')'
    advance
    if isSetting ∧ letters.isEmpty then throw .nothingToRepeat
    setFlags (withFlags before letters)
    if isSetting then return ⟨.nothing, 0, true⟩ else groupRest inner before
  else groupRest inner before

/-- A number of repetitions, which counts as wrong only where it is used. -/
def count : Reading (Except Problem Nat) := do
  leave ((← get).rest.dropWhile Text.isBlank)
  let digits ← runOf Char.isDigit
  let _ ← runOf Text.isBlank
  let n := Decimal.ofDigits digits
  return if digits.isEmpty then .error .emptyCount
    else if n < Decimal.wordLimit then .ok n
    else .error .badCount

/-- A question mark that only says which match is preferred. -/
def preference : Reading Unit := do
  if (← look) = some '?' then advance

/-- The numbers of repetitions between braces. -/
def bounds : Reading (Nat × Option Nat) := do
  advanceAndSkip
  let _ ← need .unclosedCount
  let least ← count
  let (least, most) ← if (← need .unclosedCount) = ',' then do
      advanceAndSkip
      if (← need .unclosedCount) = '\x7d' then
        let least ← liftExcept least
        pure (least, none)
      else
        let least ← liftExcept least
        let most ← liftExcept (← count)
        pure (least, some most)
    else do
      let least ← liftExcept least
      pure (least, some least)
  if (← look) ≠ some '\x7d' then throw .unclosedCount
  advanceAndSkip
  preference
  if most.any (· < least) then throw .reversedCount
  return (least, most)

/-- The bounds of the repetition that a sign begins. -/
def repetition (sign : Char) : Reading (Nat × Option Nat) := do
  if sign = '\x7b' then bounds
  else
    advance
    preference
    return if sign = '?' then (0, some 1) else if sign = '+' then (1, none) else (0, none)

/-! ## Expressions -/

mutual

/-- Things one after another, the last one first, after those that were read. -/
def things : Nat → List Piece → Reading (List Piece)
  | 0, pieces => return pieces
  | fuel + 1, pieces => do
    skip
    match ← look with
    | none => return pieces
    | some c =>
      if c = ')' ∨ c = '|' then return pieces
      else if c = '(' then
        let piece ← group (alternatives fuel)
        things fuel (piece :: pieces)
      else if c = '[' then
        let piece ← brackets ((← get).rest.length + 1)
        things fuel (⟨.one piece.set, piece.depth, false⟩ :: pieces)
      else if c = '?' ∨ c = '*' ∨ c = '+' ∨ c = '\x7b' then
        match pieces with
        | [] => throw .nothingToRepeat
        | piece :: pieces =>
          if piece.isSetting then throw .nothingToRepeat
          let (least, most) ← repetition c
          things fuel (⟨.repeated least most piece.pattern, piece.depth + 1, false⟩ :: pieces)
      else
        let piece ← single c
        things fuel (piece :: pieces)

/-- Things with bars between them. -/
def branches : Nat → Reading (List Piece)
  | 0 => return []
  | fuel + 1 => do
    let pieces ← things fuel []
    let first := joined pieces.reverse
    if (← look) = some '|' then
      advance
      return first :: (← branches fuel)
    else return [first]

def alternatives : Nat → Reading Piece
  | 0 => return leaf .nothing
  | fuel + 1 => do return oneOf (← branches fuel)

end

/-- A whole expression. -/
def whole : Reading Piece := do
  let piece ← alternatives (3 * (← get).rest.length + 3)
  if (← look).isSome then throw .unopenedGroup
  return piece

end Reading

/-- The pattern of an expression. -/
def ofText (text : String) : Except Problem Pattern :=
  Reading.ofText Reading.whole text

end GlslAssist.Pattern
