import GlslAssist.Document

/-!
# Call sites

The call whose argument list holds the cursor is found by reading the text backwards from it,
through a window of lines, to the nearest parenthesis that is opened and not closed. Commas on the
way count the arguments, unless they stand inside a call that is already closed. The reading is
purely lexical: parentheses in comments count too.
-/

namespace GlslAssist

open Text

/-- The call around a position: the name before its parenthesis, and which argument is meant. -/
structure CallSite where
  function : String
  activeParameter : Nat
  deriving DecidableEq, Repr

namespace CallSite

/-- How many lines above the cursor are read unless the settings say otherwise. -/
def defaultLookback : Nat := 20

/-- What reading one line backwards comes to: the text before an unmatched parenthesis, or the
number of closings still to be matched; with the commas seen so far. -/
inductive Reading where
  | opened (before : List Char) (commas : Nat)
  | passed (depth commas : Nat)
  deriving DecidableEq, Repr

/-- Reads the characters of a line, last one first. -/
def readBack : List Char → Nat → Nat → Reading
  | [], depth, commas => .passed depth commas
  | c :: rest, depth, commas =>
    if c = ')' then readBack rest (depth + 1) commas
    else if c = '(' then
      match depth with
      | 0 => .opened rest.reverse commas
      | depth + 1 => readBack rest depth commas
    else if c = ',' ∧ depth = 0 then readBack rest depth (commas + 1)
    else readBack rest depth commas

theorem readBack_cons (c : Char) (r : List Char) (depth commas : Nat) :
    readBack (c :: r) depth commas =
      if c = ')' then readBack r (depth + 1) commas
      else if c = '(' then
        match depth with
        | 0 => .opened r.reverse commas
        | depth + 1 => readBack r depth commas
      else if c = ',' ∧ depth = 0 then readBack r depth (commas + 1)
      else readBack r depth commas :=
  rfl

/-- Reads lines backwards, the cursor's first. -/
def readLines : List (List Char) → Nat → Nat → Option (List Char × Nat)
  | [], _, _ => none
  | line :: above, depth, commas =>
    match readBack line.reverse depth commas with
    | .opened before commas => some (before, commas)
    | .passed depth commas => readLines above depth commas

/-- Up to `count` lines above line `n`, the nearest first. -/
def linesAbove (doc : Document) : Nat → Nat → List (List Char)
  | 0, _ => []
  | _, 0 => []
  | n + 1, count + 1 => (doc.line? n).toList ++ linesAbove doc n count

/-- The lines a search reads: the cursor's up to the cursor, then those above it. -/
def window (doc : Document) (pos : Position) (lookback : Nat) : Option (List (List Char)) :=
  (doc.line? pos.line).map fun line =>
    slice line 0 (columnToByte line pos.character) :: linesAbove doc pos.line lookback

def find (doc : Document) (pos : Position) (lookback : Nat) : Option CallSite :=
  match window doc pos lookback with
  | none => none
  | some lines =>
    match readLines lines 0 0 with
    | none => none
    | some (before, commas) =>
      (trailingIdentifier before).map fun name => ⟨String.ofList name, commas⟩

end CallSite

end GlslAssist
