import GlslAssist.Text.Offset

/-!
# Text without control sequences

What goes to a log or to a list of errors may carry foreign text, and with it sequences that steer a
terminal. `plain` drops these and all control characters but those that are white space. A sequence
begins with an escape character. What follows that says how it ends: at one of a set of final
characters, at the bell, or only with another escape character.
-/

namespace GlslAssist.Text

/-- Where in a sequence a character stands. -/
inductive Steering where
  /-- In no sequence. -/
  | none
  | escape
  /-- After an escape character and others that do not end the sequence yet. -/
  | shift
  /-- In a sequence that an opening bracket began. -/
  | control
  /-- In the head of a string for the device. -/
  | deviceHead
  /-- In a string that nobody reads, up to its terminator. -/
  | unread
  /-- In a command for the system, which a bell may end. -/
  | system
  deriving DecidableEq, Repr

def escapeChar : Char := Char.ofNat 0x1B

/-- The characters that break off any sequence. -/
def isCancel (c : Char) : Bool :=
  c.toNat == 0x18 || c.toNat == 0x1A

/-- White space among the control characters. -/
def isLayout (c : Char) : Bool :=
  c == '\t' || c == '\n' || c == '\r' || c.toNat == 0x0C

/-- A character that stands between two bounds. -/
def isBetween (low high : Nat) (c : Char) : Bool :=
  low ≤ c.toNat && c.toNat ≤ high

/-- The terminator of a string is a byte that may also be part of a longer character. -/
def holdsTerminator (c : Char) : Bool :=
  (String.utf8EncodeChar c).drop 1 |>.contains 0x9C

namespace Steering

/-- What a character after an escape character begins. -/
def afterEscape (c : Char) : Steering :=
  if c == '[' then control
  else if c == ']' then system
  else if c == 'P' then deviceHead
  else if c == 'X' || c == '^' || c == '_' then unread
  else if isBetween 0x20 0x2F c then shift
  else if isBetween 0x30 0x7E c then none
  else escape

/-- Where the character after `c` stands, if `c` breaks nothing off. -/
def next (s : Steering) (c : Char) : Steering :=
  match s with
  | none => none
  | escape => afterEscape c
  | shift => if isBetween 0x30 0x7E c then none else shift
  | control => if isBetween 0x40 0x7E c then none else control
  | deviceHead => if isBetween 0x40 0x7E c then unread else deviceHead
  | unread => if holdsTerminator c then none else unread
  | system => if c.toNat = 0x07 then none else system

/-- White space inside these sequences ends them and is kept. -/
def yieldsToLayout : Steering → Bool
  | escape | shift | control => true
  | none | deviceHead | unread | system => false

end Steering

/-- A character that is text where no sequence is open. -/
def isShown (c : Char) : Bool :=
  isLayout c || (0x20 ≤ c.toNat && c.toNat != 0x7F)

/-- What is left of a text that goes on in the middle of a sequence. -/
def plainFrom : Steering → List Char → List Char
  | _, [] => []
  | s, c :: rest =>
    if c = escapeChar then plainFrom .escape rest
    else if isCancel c then plainFrom .none rest
    else if s.yieldsToLayout && isLayout c then c :: plainFrom .none rest
    else if s = .none then if isShown c then c :: plainFrom .none rest else plainFrom .none rest
    else plainFrom (s.next c) rest

def plain (s : String) : String :=
  String.ofList (plainFrom .none s.toList)

end GlslAssist.Text
