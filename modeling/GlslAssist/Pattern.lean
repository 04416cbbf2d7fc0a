import GlslAssist.Pattern.CharSet

/-!
# Patterns

A pattern says of places in a text where a match that begins there may end. `ends` follows it from
some places to all places that it leads to; `occursIn` begins everywhere at once.

A repeated pattern is followed no more than once for every character and once more: a longer walk
has to stand still at some step, which can be left out or done again.
-/

namespace GlslAssist

/-- What can be asked of a place without going on. -/
inductive Edge where
  | textStart
  | textEnd
  | lineStart
  | lineEnd
  /-- Lines that end at a carriage return, at a line feed, or at both together. -/
  | anyLineStart
  | anyLineEnd
  | word
  | noWord
  | wordStart
  | wordEnd
  | wordStartHalf
  | wordEndHalf
  /-- An edge of words that are not of ASCII characters alone. -/
  | foreignWord
  deriving DecidableEq, Repr

def Edge.isWordChar (c : Option Char) : Bool :=
  c.any CharSet.wordChars.contains

/-- The edge lies between these two characters, either of which may be missing. -/
def Edge.holds (e : Edge) (before after : Option Char) : Bool :=
  let first := isWordChar before
  let second := isWordChar after
  match e with
  | textStart => before.isNone
  | textEnd => after.isNone
  | lineStart => before.isNone || before == some '\n'
  | lineEnd => after.isNone || after == some '\n'
  | anyLineStart =>
    before.isNone || before == some '\n' || (before == some '\r' && after != some '\n')
  | anyLineEnd =>
    after.isNone || after == some '\r' || (after == some '\n' && before != some '\r')
  | word => first != second
  | noWord => first == second
  | wordStart => !first && second
  | wordEnd => first && !second
  | wordStartHalf => !first
  | wordEndHalf => !second
  | foreignWord => false

inductive Pattern where
  | nothing
  | one (set : CharSet)
  | edge (e : Edge)
  | sequence (p q : Pattern)
  | either (p q : Pattern)
  /-- The pattern at least, and perhaps at most, so many times. -/
  | repeated (least : Nat) (most : Option Nat) (p : Pattern)
  deriving DecidableEq, Repr, Inhabited

namespace Pattern

def ofList (patterns : List Pattern) : Pattern :=
  patterns.foldr sequence nothing

/-! ## Matching -/

/-- All of some places and of some others. -/
def allOf (places others : List Nat) : List Nat :=
  places ++ others.filter fun place => !places.contains place

/-- Takes a step so many times. -/
def steps (step : List Nat → List Nat) : Nat → List Nat → List Nat
  | 0, places => places
  | n + 1, places => if places.isEmpty then [] else steps step n (step places)

/-- The places that some number of steps up to a bound leads to. -/
def reach (step : List Nat → List Nat) : Nat → List Nat → List Nat
  | 0, places => places
  | n + 1, places =>
    let more := allOf places (step places)
    if more.length = places.length then places else reach step n more

/-- The places where a match that begins at one of some places may end. -/
def ends (text : Array Char) : Pattern → List Nat → List Nat
  | nothing, places => places
  | one set, places => (places.filter fun i => (text[i]?).any set.contains).map (· + 1)
  | edge e, places =>
    places.filter fun i => e.holds (if i = 0 then none else text[i - 1]?) text[i]?
  | sequence p q, places => q.ends text (p.ends text places)
  | either p q, places => allOf (p.ends text places) (q.ends text places)
  | repeated least most p, places =>
    let enough := text.size + 1
    let further := (most.map (· - least)).getD enough
    reach (p.ends text) (min further enough) (steps (p.ends text) (min least enough) places)

/-- The pattern matches somewhere in the text. -/
def occursIn (p : Pattern) (text : String) : Bool :=
  let text := text.toList.toArray
  !(p.ends text (List.range (text.size + 1))).isEmpty

/-! ## Limits -/

/-- The pattern asks for an edge of words that are not of ASCII characters alone. -/
def asksForForeignWord : Pattern → Bool
  | nothing | one _ => false
  | edge e => e = .foreignWord
  | sequence p q | either p q => p.asksForForeignWord || q.asksForForeignWord
  | repeated _ most p => most ≠ some 0 && p.asksForForeignWord

/-- How much room a pattern takes with all repetitions written out. -/
def weight : Pattern → Nat
  | nothing => 0
  | one set => if set.isAscii then 72 else 464
  | edge _ => 32
  | sequence p q => p.weight + q.weight
  | either p q => p.weight + q.weight + 40
  | repeated least most p =>
    match most with
    | none => max 1 least * p.weight + 40
    | some most => least * p.weight + (most - least) * (p.weight + 40)

/-- The most room that a pattern may take. -/
def weightLimit : Nat := 10485760

end Pattern

end GlslAssist
