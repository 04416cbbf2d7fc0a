import GlslAssist.Text.Identifier

/-!
# Documents and words

A document is the text of one buffer. Only a line feed ends a line; a carriage return before it is
not part of the line, and one at the very end of the text is dropped as well. Lines are cut from the
text by byte offsets (`lineStarts`).

Three queries look at the identifier run around a position: the word it touches, the part before it,
and the range a completion would replace. Positions count lines from zero and columns in UTF-16 code
units, and a column is taken at the nearest character boundary at or before it.
-/

namespace GlslAssist

open Text

structure Position where
  line : Nat
  character : Nat
  deriving DecidableEq, Repr

structure Range where
  start : Position
  stop : Position
  deriving DecidableEq, Repr

/-- An identifier and where it stands. -/
structure Word where
  text : String
  range : Range
  deriving DecidableEq, Repr

structure Document where
  source : List Char
  deriving DecidableEq

namespace Document

def ofText (text : String) : Document :=
  ⟨text.toList⟩

/-- The offsets after each line feed of a text that begins at `offset`. -/
def startsAfter : Nat → List Char → List Nat
  | _, [] => []
  | offset, c :: s =>
    let next := offset + c.utf8Size
    if c = '\n' then next :: startsAfter next s else startsAfter next s

/-- The byte offset at which each line begins. -/
def lineStarts (doc : Document) : List Nat :=
  0 :: startsAfter 0 doc.source

def lineCount (doc : Document) : Nat :=
  doc.lineStarts.length

/-- The text without one carriage return at its end. -/
def dropReturn (s : List Char) : List Char :=
  if s.getLast? = some '\r' then s.dropLast else s

/-- The characters of line `n`, without its ending. -/
def line? (doc : Document) (n : Nat) : Option (List Char) :=
  doc.lineStarts[n]?.map fun start =>
    let stop := match doc.lineStarts[n + 1]? with
      | some next => next - 1
      | none => utf8Length doc.source
    dropReturn (slice doc.source start stop)

/-- The word between two byte offsets of a line. -/
def wordBetween (n : Nat) (line : List Char) (start stop : Nat) : Word :=
  ⟨String.ofList (slice line start stop),
    ⟨⟨n, byteToColumn line start⟩, ⟨n, byteToColumn line stop⟩⟩⟩

/-- The identifier that touches the position on either side. -/
def wordAt (doc : Document) (pos : Position) : Option Word :=
  match doc.line? pos.line with
  | none => none
  | some line =>
    let offset := columnToByte line pos.character
    let start := identStart line offset
    let stop := identEnd line offset
    if start = stop then none else some (wordBetween pos.line line start stop)

/-- The part of an identifier that ends at the position. Past the last line it is empty. -/
def wordUntil (doc : Document) (pos : Position) : Word :=
  match doc.line? pos.line with
  | none => ⟨"", ⟨pos, pos⟩⟩
  | some line =>
    let offset := columnToByte line pos.character
    wordBetween pos.line line (identStart line offset) offset

/-- The range that a completion at the position replaces. -/
def completionRange (doc : Document) (pos : Position) : Range :=
  match doc.line? pos.line with
  | none => ⟨pos, pos⟩
  | some line =>
    let offset := columnToByte line pos.character
    (wordBetween pos.line line (identStart line offset) (identEnd line offset)).range

end Document

end GlslAssist
