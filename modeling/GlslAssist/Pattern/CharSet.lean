/-!
# Sets of characters

A set is written down as it was put together, from ranges by union, intersection and complement, so
that asking whether a character is in it follows how it was written.
-/

namespace GlslAssist

inductive CharSet where
  | none
  /-- All characters from one to another. -/
  | range (low high : Char)
  | union (a b : CharSet)
  | both (a b : CharSet)
  | complement (a : CharSet)
  /-- With every letter of the set, that letter in the other case, ASCII letters alone. -/
  | eitherCase (a : CharSet)
  deriving DecidableEq, Repr, Inhabited

namespace CharSet

/-- An ASCII letter in the other case; all else as it is. -/
def otherCase (c : Char) : Char :=
  if c.isUpper then c.toLower else c.toUpper

def contains : CharSet → Char → Bool
  | none, _ => false
  | range low high, c => low ≤ c && c ≤ high
  | union a b, c => a.contains c || b.contains c
  | both a b, c => a.contains c && b.contains c
  | complement a, c => !a.contains c
  | eitherCase a, c => a.contains c || a.contains (otherCase c)

def all : CharSet := complement none

def single (c : Char) : CharSet := range c c

/-- What is in the first set and not in the second. -/
def without (a b : CharSet) : CharSet := both a (complement b)

/-- What is in one of the sets and not in the other. -/
def inOne (a b : CharSet) : CharSet := union (a.without b) (b.without a)

def unions (sets : List CharSet) : CharSet :=
  sets.foldr union none

def digits : CharSet := range '0' '9'
def uppers : CharSet := range 'A' 'Z'
def lowers : CharSet := range 'a' 'z'
def letters : CharSet := union uppers lowers

/-- Digits, letters and the underscore. -/
def wordChars : CharSet := unions [digits, letters, single '_']

def spaces : CharSet := union (range '\t' '\r') (single ' ')

/-- The sets of ASCII characters that have a name. -/
def ofName? (name : String) : Option CharSet :=
  match name with
  | "alnum" => some (union digits letters)
  | "alpha" => some letters
  | "ascii" => some (range (Char.ofNat 0) (Char.ofNat 0x7F))
  | "blank" => some (union (single '\t') (single ' '))
  | "cntrl" => some (union (range (Char.ofNat 0) (Char.ofNat 0x1F)) (single (Char.ofNat 0x7F)))
  | "digit" => some digits
  | "graph" => some (range '!' '~')
  | "lower" => some lowers
  | "print" => some (range ' ' '~')
  | "punct" =>
    some (unions [range '!' '/', range ':' '@', range '[' (Char.ofNat 0x60), range '\x7b' '~'])
  | "space" => some spaces
  | "upper" => some uppers
  | "word" => some wordChars
  | "xdigit" => some (unions [digits, range 'A' 'F', range 'a' 'f'])
  | _ => Option.none

/-- No character beyond ASCII is in the set, all of which it treats alike. -/
def isAscii (a : CharSet) : Bool :=
  !a.contains (Char.ofNat 0x80)

end CharSet

end GlslAssist
