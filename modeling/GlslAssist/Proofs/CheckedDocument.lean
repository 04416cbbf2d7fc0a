import GlslAssist.Proofs.Checked
import GlslAssist.Proofs.Lines

/-!
# Documents with every step checked

The line starts of a text are found byte by byte and kept with it; a line is then cut out between
two of them. A line feed is a byte of its own, so each start, and the place one byte before the next
one, lies between two characters (`line?_eq`); so do both ends of a word on the line.
-/

namespace GlslAssist

open Text Decimal

namespace Checked

/-- The places after each line feed, from the byte at `i` on. -/
def startsAfter : Nat → List UInt8 → Checked (List Nat)
  | _, [] => pure []
  | i, b :: bs =>
    if b = '\n'.toUInt8 then do
      let next ← add i 1
      let rest ← startsAfter (i + 1) bs
      pure (next :: rest)
    else startsAfter (i + 1) bs

/-- A text with the line starts that were found in it. -/
structure Snapshot where
  source : List Char
  lineStarts : List Nat

namespace Snapshot

def ofText (text : List Char) : Checked Snapshot := do
  let starts ← startsAfter 0 (bytes text)
  pure ⟨text, 0 :: starts⟩

def lineCount (d : Snapshot) : Checked Nat :=
  narrow d.lineStarts.length

/-- Where the piece of line `n` ends. -/
def stopOf (d : Snapshot) (n : Nat) : Checked Nat := do
  let following ← add n 1
  match d.lineStarts[following]? with
  | some next => sub next 1
  | none => pure (utf8Length d.source)

def line? (d : Snapshot) (n : Nat) : Checked (Option (List Char)) :=
  match d.lineStarts[n]? with
  | none => pure none
  | some start => do
    let stop ← d.stopOf n
    let piece ← cut d.source start stop
    pure (some (Document.dropReturn piece))

end Snapshot

def wordBetween (n : Nat) (line : List Char) (start stop : Nat) : Checked Word := do
  let text ← cut line start stop
  let first ← byteToColumn line start
  let last ← byteToColumn line stop
  pure ⟨String.ofList text, ⟨⟨n, first⟩, ⟨n, last⟩⟩⟩

namespace Snapshot

def wordAt (d : Snapshot) (pos : Position) : Checked (Option Word) := do
  match ← d.line? pos.line with
  | none => pure none
  | some line =>
    let offset ← columnToByte line pos.character
    let start ← identStart line offset
    let stop ← identEnd line offset
    if start = stop then pure none
    else
      let word ← wordBetween pos.line line start stop
      pure (some word)

def wordUntil (d : Snapshot) (pos : Position) : Checked Word := do
  match ← d.line? pos.line with
  | none => pure ⟨"", ⟨pos, pos⟩⟩
  | some line =>
    let offset ← columnToByte line pos.character
    let start ← identStart line offset
    wordBetween pos.line line start offset

def completionRange (d : Snapshot) (pos : Position) : Checked Range := do
  match ← d.line? pos.line with
  | none => pure ⟨pos, pos⟩
  | some line =>
    let offset ← columnToByte line pos.character
    let start ← identStart line offset
    let stop ← identEnd line offset
    let word ← wordBetween pos.line line start stop
    pure word.range

end Snapshot

/-! ## Lines -/

theorem startsAfter_append : ∀ (i : Nat) (xs ys : List UInt8), (∀ b ∈ xs, b ≠ '\n'.toUInt8) →
    startsAfter i (xs ++ ys) = startsAfter (i + xs.length) ys
  | i, [], ys, _ => rfl
  | i, x :: xs, ys, h => by
    rw [List.cons_append, startsAfter, if_neg (h x List.mem_cons_self),
      startsAfter_append (i + 1) xs ys fun b hb => h b (List.mem_cons_of_mem x hb),
      List.length_cons, Nat.add_right_comm, Nat.add_assoc]

theorem startsAfter_eq : ∀ (s : List Char) (i : Nat), i + utf8Length s < wordLimit →
    startsAfter i (bytes s) = pure (Document.startsAfter i s)
  | [], _, _ => rfl
  | c :: s, i, h => by
    rw [utf8Length_cons] at h
    have ih := startsAfter_eq s (i + c.utf8Size) (by omega)
    rw [bytes_cons, Document.startsAfter]
    by_cases hc : c = '\n'
    · subst hc
      have hsize : '\n'.utf8Size = 1 := by decide
      rw [hsize] at ih h
      rw [show String.utf8EncodeChar '\n' = ['\n'.toUInt8] by decide, List.singleton_append,
        startsAfter, if_pos rfl, if_pos rfl, add_eq (by omega), pure_bind, ih, pure_bind, hsize]
    · have hne : ∀ b ∈ String.utf8EncodeChar c, b ≠ '\n'.toUInt8 := fun b hb heq =>
        hc ((eq_toUInt8_iff (by decide) hb).1 heq)
      rw [startsAfter_append _ _ _ hne, String.length_utf8EncodeChar, ih, if_neg hc]

theorem length_startsAfter_le : ∀ (s : List Char) (i : Nat),
    (Document.startsAfter i s).length ≤ utf8Length s
  | [], _ => Nat.le_refl 0
  | c :: s, i => by
    have ih := length_startsAfter_le s (i + c.utf8Size)
    have hc := Char.utf8Size_pos c
    rw [Document.startsAfter, utf8Length_cons]
    split_ifs
    · rw [List.length_cons]
      omega
    · omega

end Checked

namespace Document

/-- The document as checked computations hold it. -/
def snapshot (doc : Document) : Checked.Snapshot :=
  ⟨doc.source, doc.lineStarts⟩

/-- The length of the text and the number of its lines are words of 32 bits. -/
def Fits (doc : Document) : Prop :=
  utf8Length doc.source + 1 < wordLimit

variable {doc : Document}

theorem length_lineStarts_le (doc : Document) :
    doc.lineStarts.length ≤ utf8Length doc.source + 1 :=
  Nat.succ_le_succ (Checked.length_startsAfter_le doc.source 0)

theorem utf8Length_dropReturn_le (s : List Char) : utf8Length (dropReturn s) ≤ utf8Length s := by
  rcases dropReturn_cases s with ⟨h, -⟩ | h
  · rw [h]
  · rw [h, utf8Length_append, ← h]
    exact Nat.le_add_right _ _

theorem utf8Length_line_le {n : Nat} {line : List Char} (h : doc.line? n = some line) :
    utf8Length (piecesBefore doc.pieces n) + utf8Length line ≤ utf8Length doc.source := by
  obtain ⟨s, hs, rfl⟩ := line?_eq_some_iff.1 h
  have hle := utf8Length_dropReturn_le s
  rw [source_eq hs, utf8Length_append, utf8Length_append]
  omega

end Document

namespace Checked

variable {doc : Document} {pos : Position} {line : List Char} {n : Nat}

theorem ofText_eq (h : doc.Fits) : Snapshot.ofText doc.source = pure doc.snapshot := by
  rw [Document.Fits] at h
  rw [Snapshot.ofText, startsAfter_eq doc.source 0 (by omega), pure_bind]
  rfl

theorem lineCount_eq (h : doc.Fits) : doc.snapshot.lineCount = pure doc.lineCount :=
  narrow_eq (Nat.lt_of_le_of_lt doc.length_lineStarts_le h)

theorem stopOf_eq (h : doc.Fits) {s : List Char} (hs : doc.pieces[n]? = some s) :
    doc.snapshot.stopOf n = pure (doc.stopOf n) := by
  have hlt : n < doc.lineStarts.length := by
    have hsome : (doc.lineStarts[n]?).isSome := by
      rw [Document.getElem?_lineStarts, hs]
      rfl
    rwa [isSome_getElem?] at hsome
  have hfollowing : n + 1 < wordLimit := by
    have hcount := doc.length_lineStarts_le
    rw [Document.Fits] at h
    omega
  simp only [Snapshot.stopOf, Document.snapshot, add_eq hfollowing, pure_bind, Document.stopOf,
    Document.getElem?_lineStarts]
  rcases doc.pieces[n + 1]? with _ | t
  · rfl
  · have hpos : 1 ≤ utf8Length (piecesBefore doc.pieces (n + 1)) := by
      rw [piecesBefore_succ hs, utf8Length_append _ ['\n']]
      exact Nat.le_add_left _ _
    exact sub_eq hpos

theorem line?_eq (h : doc.Fits) (n : Nat) : doc.snapshot.line? n = pure (doc.line? n) := by
  have hstart := doc.getElem?_lineStarts n
  rw [Document.line?_eq, Snapshot.line?]
  simp only [show doc.snapshot.lineStarts = doc.lineStarts from rfl, hstart]
  rcases hs : doc.pieces[n]? with _ | s
  · rfl
  · have hcut := cut_append (piecesBefore doc.pieces n) s (piecesAfter doc.pieces n)
    rw [← Document.source_eq hs, ← Document.stopOf_eq hs] at hcut
    simp only [Option.map_some, stopOf_eq h hs, pure_bind,
      show doc.snapshot.source = doc.source from rfl, hcut]

/-! ## Words -/

theorem utf8Length_line_lt (h : doc.Fits) (hl : doc.line? n = some line) :
    utf8Length line < wordLimit := by
  have hle := Document.utf8Length_line_le hl
  rw [Document.Fits] at h
  omega

theorem wordBetween_eq (a m b : List Char) (h : utf8Length (a ++ m ++ b) < wordLimit) (n : Nat) :
    wordBetween n (a ++ m ++ b) (utf8Length a) (utf8Length (a ++ m))
      = pure (Document.wordBetween n (a ++ m ++ b) (utf8Length a) (utf8Length (a ++ m))) := by
  have hs : slice (a ++ m ++ b) (utf8Length a) (utf8Length (a ++ m)) = m := by
    rw [utf8Length_append, slice_append]
  simp only [wordBetween, cut_append, byteToColumn_eq h, pure_bind, Document.wordBetween, hs]

/-- The word around a place between two characters. -/
theorem wordBetween_run_eq (p q : List Char) (h : utf8Length (p ++ q) < wordLimit) (n : Nat) :
    let start := Text.identStart (p ++ q) (utf8Length p)
    let stop := Text.identEnd (p ++ q) (utf8Length p)
    wordBetween n (p ++ q) start stop = pure (Document.wordBetween n (p ++ q) start stop) := by
  intro start stop
  rw [show start = _ from identStart_append p q, show stop = _ from identEnd_append p q,
    append_takeWhile_eq, parts_eq p q]
  rw [parts_eq p q] at h
  exact wordBetween_eq _ _ _ h n

/-- The word that ends between two characters. -/
theorem wordBetween_before_eq (p q : List Char) (h : utf8Length (p ++ q) < wordLimit) (n : Nat) :
    let start := Text.identStart (p ++ q) (utf8Length p)
    wordBetween n (p ++ q) start (utf8Length p)
      = pure (Document.wordBetween n (p ++ q) start (utf8Length p)) := by
  intro start
  rw [show start = _ from identStart_append p q]
  have hw := wordBetween_eq (p.rdropWhile isIdentChar) (p.rtakeWhile isIdentChar) q
  rw [List.rdropWhile_append_rtakeWhile] at hw
  exact hw h n

theorem wordAt_eq (h : doc.Fits) (pos : Position) :
    doc.snapshot.wordAt pos = pure (doc.wordAt pos) := by
  rw [Snapshot.wordAt, line?_eq h, pure_bind, Document.wordAt]
  rcases hl : doc.line? pos.line with _ | line
  · rfl
  · have hlen := utf8Length_line_lt h hl
    obtain ⟨p, q, rfl, hp⟩ := Text.columnToByte_eq line pos.character
    simp only [columnToByte_eq hlen, hp, pure_bind, identStart_eq, identEnd_eq hlen,
      wordBetween_run_eq p q hlen]
    split_ifs
    · rfl
    · rfl

theorem wordUntil_eq (h : doc.Fits) (pos : Position) :
    doc.snapshot.wordUntil pos = pure (doc.wordUntil pos) := by
  rw [Snapshot.wordUntil, line?_eq h, pure_bind, Document.wordUntil]
  rcases hl : doc.line? pos.line with _ | line
  · rfl
  · have hlen := utf8Length_line_lt h hl
    obtain ⟨p, q, rfl, hp⟩ := Text.columnToByte_eq line pos.character
    simp only [columnToByte_eq hlen, hp, pure_bind, identStart_eq, wordBetween_before_eq p q hlen]

theorem completionRange_eq (h : doc.Fits) (pos : Position) :
    doc.snapshot.completionRange pos = pure (doc.completionRange pos) := by
  rw [Snapshot.completionRange, line?_eq h, pure_bind, Document.completionRange]
  rcases hl : doc.line? pos.line with _ | line
  · rfl
  · have hlen := utf8Length_line_lt h hl
    obtain ⟨p, q, rfl, hp⟩ := Text.columnToByte_eq line pos.character
    simp only [columnToByte_eq hlen, hp, pure_bind, identStart_eq, identEnd_eq hlen,
      wordBetween_run_eq p q hlen]

end Checked

end GlslAssist
