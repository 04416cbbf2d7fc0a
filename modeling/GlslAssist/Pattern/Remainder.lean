import GlslAssist.Pattern
import GlslAssist.Pattern.Problem
import GlslAssist.Text.Blank

/-!
# What is left of an expression

A regular expression is read from left to right, together with the flags that hold at each place.
Blanks and comments are passed over where the flag for that is set. What the expression asks for in
vain is remembered, and counts only if the expression can be read to its end.
-/

namespace GlslAssist.Pattern

/-- What holds for the letters that follow. -/
structure Flags where
  anyCase : Bool
  byLine : Bool
  dotIsAll : Bool
  foreign : Bool
  anyLineEnd : Bool
  spaced : Bool

/-- What is left of the expression, and what is known of what was read. -/
structure Remainder where
  rest : List Char
  flags : Flags
  names : List (List Char)
  /-- The first thing that was asked for in vain. -/
  complaint : Option Problem

abbrev Reading (α : Type) := StateT Remainder (Except Problem) α

/-- What was read, and how deep groups and sets stand inside each other there. -/
structure Piece where
  pattern : Pattern
  depth : Nat
  /-- It sets flags and is nothing that could be repeated. -/
  isSetting : Bool

namespace Reading

/-! ## Characters -/

/-- What follows blanks, and comments up to the ends of their lines. -/
def skipIdle : Bool → List Char → List Char
  | _, [] => []
  | true, c :: s => skipIdle (c ≠ '\n') s
  | false, c :: s =>
    if Text.isBlank c then skipIdle false s
    else if c = '#' then skipIdle true s
    else c :: s

def look : Reading (Option Char) := do
  return (← get).rest.head?

/-- Takes what follows for what is left. -/
def leave (rest : List Char) : Reading Unit :=
  modify fun r => { r with rest }

def skip : Reading Unit :=
  modify fun r => if r.flags.spaced then { r with rest := skipIdle false r.rest } else r

def advance : Reading Unit :=
  modify fun r => { r with rest := r.rest.tail }

def advanceAndSkip : Reading Unit := do
  advance
  skip

/-- Takes some characters if they come next. -/
def takes (word : String) : Reading Bool := do
  let r ← get
  if word.toList.isPrefixOf r.rest then
    leave (r.rest.drop word.length)
    return true
  else return false

/-- The character after the next one and what may be passed over. -/
def lookPastIdle : Reading (Option Char) := do
  let r ← get
  return (if r.flags.spaced then skipIdle false r.rest.tail else r.rest.tail).head?

/-- The next character, which has to be there. -/
def need (problem : Problem) : Reading Char := do
  match ← look with
  | some c => return c
  | none => throw problem

/-- Takes characters of a kind, passing over what may be between them. -/
def runUpTo (isFit : Char → Bool) : Nat → Reading (List Char)
  | 0 => return []
  | fuel + 1 => do
    match ← look with
    | none => return []
    | some c =>
      if isFit c then
        advanceAndSkip
        return c :: (← runUpTo isFit fuel)
      else return []

/-- Takes all characters of a kind that come next. -/
def runOf (isFit : Char → Bool) : Reading (List Char) := do
  runUpTo isFit (← get).rest.length

/-- Remembers the first complaint. -/
def complain (problem : Problem) : Reading Unit :=
  modify fun r => { r with complaint := r.complaint.or (some problem) }

def flags : Reading Flags := do
  return (← get).flags

/-! ## Pieces -/

def leaf (pattern : Pattern) : Piece :=
  ⟨pattern, 0, false⟩

def deepest (pieces : List Piece) : Nat :=
  (pieces.map Piece.depth).foldl max 0

/-- Pieces one after another. -/
def joined : List Piece → Piece
  | [piece] => piece
  | [] => leaf .nothing
  | pieces => ⟨.ofList (pieces.map Piece.pattern), deepest pieces + 1, false⟩

/-- One of some pieces. -/
def oneOf : List Piece → Piece
  | [] => leaf .nothing
  | [piece] => piece
  | piece :: pieces =>
    ⟨pieces.foldl (fun p q => .either p q.pattern) piece.pattern,
      deepest (piece :: pieces) + 1, false⟩

/-- Reads an expression to its end. -/
def ofText (whole : Reading Piece) (text : String) : Except Problem Pattern := do
  let start : Remainder := ⟨text.toList, ⟨false, false, false, true, false, false⟩, [], none⟩
  let (piece, remainder) ← StateT.run whole start
  if depthLimit < piece.depth then throw .tooDeep
  if let some problem := remainder.complaint then throw problem
  if piece.pattern.asksForForeignWord then throw .noWordTable
  if weightLimit < piece.pattern.weight then throw .tooLarge
  return piece.pattern

end Reading

end GlslAssist.Pattern
