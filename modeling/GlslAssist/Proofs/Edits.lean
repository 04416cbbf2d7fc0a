import GlslAssist.Completion
import GlslAssist.Proofs.Lines

/-!
# Edits of a document

An edit replaces what stands between two positions. When these are columns of one line, the edited
text is the old pieces with one of them changed (`edit?_spanOf`): if the new characters are on one
line, every other line stays, and a carriage return that ended the line still does.
-/

namespace GlslAssist

open Text

namespace Document

/-- The byte offset of a position in the whole text. -/
def offset? (doc : Document) (pos : Position) : Option Nat :=
  match doc.lineStarts[pos.line]?, doc.line? pos.line with
  | some start, some line => some (start + columnToByte line pos.character)
  | _, _ => none

/-- The document after an edit, if the range is one of the document. -/
def edit? (doc : Document) (edit : TextEdit) : Option Document :=
  match doc.offset? edit.range.start, doc.offset? edit.range.stop with
  | some start, some stop =>
    if start ≤ stop then
      some ⟨takeBytes start doc.source ++ edit.newText.toList ++ dropBytes stop doc.source⟩
    else none
  | _, _ => none

variable {doc : Document} {n : Nat} {piece a m b ending : List Char} {new : String}

theorem offset?_of_partsAt {pos : Position} {p q : List Char} (h : doc.PartsAt pos p q)
    (hp : doc.pieces[pos.line]? = some piece) :
    doc.offset? pos = some (utf8Length (piecesBefore doc.pieces pos.line ++ p)) := by
  simp only [offset?, getElem?_lineStarts, hp, h.line, Option.map_some, h.offset,
    utf8Length_append]

theorem offset?_eq (hp : doc.pieces[n]? = some piece) (hl : dropReturn piece = a ++ b) :
    doc.offset? ⟨n, utf16Length a⟩ = some (utf8Length (piecesBefore doc.pieces n ++ a)) :=
  offset?_of_partsAt (partsAt_column (line?_eq_some_iff.2 ⟨piece, hp, hl⟩)) hp

/-- To type at a position is to put characters in the place of none where its column cuts. -/
theorem edit?_typed {pos : Position} {p q : List Char} (h : doc.PartsAt pos p q) :
    doc.edit? ⟨⟨pos, pos⟩, new⟩ = doc.edit? ⟨spanOf pos.line p [], new⟩ := by
  obtain ⟨piece, hp, hl⟩ := line?_eq_some_iff.1 h.line
  have hoffset : doc.offset? pos = doc.offset? ⟨pos.line, utf16Length p⟩ := by
    rw [offset?_of_partsAt h hp, offset?_eq hp hl]
  simp only [edit?, spanOf, List.append_nil, hoffset]

/-- A piece is its line and an ending that the line does not show, before an edit and after. -/
theorem exists_ending (hl : dropReturn piece = a ++ m ++ b) (hne : new.toList ≠ [])
    (hr : new.toList.getLast? ≠ some '\r') :
    ∃ ending, piece = a ++ m ++ b ++ ending
      ∧ dropReturn (a ++ new.toList ++ b ++ ending) = a ++ new.toList ++ b := by
  rcases dropReturn_cases piece with ⟨h, hlast⟩ | h
  · refine ⟨[], by rw [← hl, h, List.append_nil], ?_⟩
    rw [List.append_nil, dropReturn, if_neg]
    rw [← h, hl] at hlast
    -- with nothing after it, what is put in ends the piece
    rcases b with _ | ⟨c, b⟩
    · rw [List.append_nil, List.getLast?_append_of_ne_nil _ hne]
      exact hr
    · rwa [List.getLast?_append_of_ne_nil _ (List.cons_ne_nil c b)] at hlast ⊢
  · exact ⟨['\r'], by rw [← hl]; exact h, dropReturn_append_return _⟩

theorem edit?_spanOf (hp : doc.pieces[n]? = some (a ++ m ++ b ++ ending))
    (hl : dropReturn (a ++ m ++ b ++ ending) = a ++ m ++ b) :
    doc.edit? ⟨spanOf n a m, new⟩
      = some ⟨['\n'].intercalate (doc.pieces.set n (a ++ new.toList ++ b ++ ending))⟩ := by
  have hlt : n < doc.pieces.length := (List.getElem?_eq_some_iff.1 hp).1
  have hstart := offset?_eq hp (hl.trans (List.append_assoc a m b))
  have hstop := offset?_eq hp hl
  have hle : utf8Length (piecesBefore doc.pieces n ++ a)
      ≤ utf8Length (piecesBefore doc.pieces n ++ (a ++ m)) := by
    simp only [utf8Length_append]
    omega
  have hleft : doc.source = (piecesBefore doc.pieces n ++ a)
      ++ (m ++ b ++ ending ++ piecesAfter doc.pieces n) := by
    rw [source_eq hp]
    simp only [List.append_assoc]
  have hright : doc.source = (piecesBefore doc.pieces n ++ (a ++ m))
      ++ (b ++ ending ++ piecesAfter doc.pieces n) := by
    rw [source_eq hp]
    simp only [List.append_assoc]
  have htake : takeBytes (utf8Length (piecesBefore doc.pieces n ++ a)) doc.source
      = piecesBefore doc.pieces n ++ a := by
    rw [hleft, takeBytes_append]
  have hdrop : dropBytes (utf8Length (piecesBefore doc.pieces n ++ (a ++ m))) doc.source
      = b ++ ending ++ piecesAfter doc.pieces n := by
    rw [hright, dropBytes_append]
  rw [intercalate_eq (List.getElem?_set_self hlt), piecesBefore_set, piecesAfter_set]
  simp only [edit?, spanOf, hstart, hstop, if_pos hle, htake, hdrop, List.append_assoc]

theorem pieces_set (hs : '\n' ∉ piece) :
    Document.pieces ⟨['\n'].intercalate (doc.pieces.set n piece)⟩ = doc.pieces.set n piece := by
  refine List.splitOn_intercalate '\n' (fun s h => ?_) ?_
  · rcases List.mem_or_eq_of_mem_set h with h | rfl
    · exact not_mem_of_mem_splitOn h
    · exact hs
  · rw [Ne, List.set_eq_nil_iff]
    exact List.splitOn_ne_nil _ _

/-- To put new characters in the place of `m` in a piece changes that piece only. -/
theorem exists_edit?_piece (hp : doc.pieces[n]? = some (a ++ m ++ b ++ ending))
    (hl : dropReturn (a ++ m ++ b ++ ending) = a ++ m ++ b) (hn : '\n' ∉ new.toList) :
    ∃ edited, doc.edit? ⟨spanOf n a m, new⟩ = some edited
      ∧ edited.line? n = some (dropReturn (a ++ new.toList ++ b ++ ending))
      ∧ ∀ k, k ≠ n → edited.pieces[k]? = doc.pieces[k]? := by
  have hlt : n < doc.pieces.length := (List.getElem?_eq_some_iff.1 hp).1
  have hfree : '\n' ∉ a ++ new.toList ++ b ++ ending := by
    have hold := not_mem_of_mem_splitOn (List.mem_of_getElem? hp)
    simp only [List.mem_append, not_or] at hold ⊢
    exact ⟨⟨⟨hold.1.1.1, hn⟩, hold.1.2⟩, hold.2⟩
  refine ⟨_, edit?_spanOf hp hl, ?_, fun k hk => ?_⟩
  · rw [line?_eq, pieces_set hfree, List.getElem?_set_self hlt, Option.map_some]
  · rw [pieces_set hfree, List.getElem?_set_ne (Ne.symm hk)]

/-- To put new characters in the place of `m` on a line changes that line only. -/
theorem exists_edit?_spanOf (hline : doc.line? n = some (a ++ m ++ b)) (hne : new.toList ≠ [])
    (hr : new.toList.getLast? ≠ some '\r') (hn : '\n' ∉ new.toList) :
    ∃ edited, doc.edit? ⟨spanOf n a m, new⟩ = some edited
      ∧ edited.line? n = some (a ++ new.toList ++ b)
      ∧ ∀ k, k ≠ n → edited.pieces[k]? = doc.pieces[k]? := by
  obtain ⟨piece, hp, hl⟩ := line?_eq_some_iff.1 hline
  obtain ⟨ending, rfl, hnew⟩ := exists_ending hl hne hr
  rw [← hnew]
  exact exists_edit?_piece hp hl hn

end Document

end GlslAssist
