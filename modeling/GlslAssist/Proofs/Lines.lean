import GlslAssist.Proofs.Words

/-!
# Lines of a text

The lines that a document cuts out by byte offsets are the pieces of its text between line feeds,
each without one carriage return at its end (`line?_eq`). So a text is its pieces joined by line
feeds, and to put other characters in the place of one piece leaves all other lines as they are.
-/

namespace GlslAssist

open Text

/-- What stands before piece `n`, the line feeds included. -/
def piecesBefore (ls : List (List Char)) (n : Nat) : List Char :=
  (ls.take n).flatMap (· ++ ['\n'])

/-- What stands after piece `n`, the line feeds included. -/
def piecesAfter (ls : List (List Char)) (n : Nat) : List Char :=
  (ls.drop (n + 1)).flatMap ('\n' :: ·)

theorem piecesBefore_set (ls : List (List Char)) (n : Nat) (s : List Char) :
    piecesBefore (ls.set n s) n = piecesBefore ls n := by
  rw [piecesBefore, List.take_set_of_le (Nat.le_refl n), piecesBefore]

theorem piecesAfter_set (ls : List (List Char)) (n : Nat) (s : List Char) :
    piecesAfter (ls.set n s) n = piecesAfter ls n := by
  rw [piecesAfter, List.drop_set_of_lt (Nat.lt_succ_self n), piecesAfter]

theorem piecesBefore_succ {ls : List (List Char)} {n : Nat} {s : List Char} (h : ls[n]? = some s) :
    piecesBefore ls (n + 1) = piecesBefore ls n ++ s ++ ['\n'] := by
  rw [piecesBefore, List.take_add_one, h, List.flatMap_append, piecesBefore, List.append_assoc]
  simp

theorem intercalate_cons (s : List Char) : ∀ ls : List (List Char),
    ['\n'].intercalate (s :: ls) = s ++ ls.flatMap ('\n' :: ·)
  | [] => by simp
  | t :: ls => by
    rw [List.intercalate_cons_cons, intercalate_cons t ls]
    simp

theorem intercalate_eq : ∀ {ls : List (List Char)} {n : Nat} {s : List Char}, ls[n]? = some s →
    ['\n'].intercalate ls = piecesBefore ls n ++ s ++ piecesAfter ls n
  | t :: ls, 0, s, h => by
    simp only [List.getElem?_cons_zero, Option.some.injEq] at h
    subst h
    rw [intercalate_cons]
    simp [piecesBefore, piecesAfter]
  | t :: ls, n + 1, s, h => by
    have hne : ls ≠ [] := by
      rintro rfl
      simp at h
    have h : ls[n]? = some s := by simpa using h
    have ih := intercalate_eq h
    rw [List.intercalate_cons_of_ne_nil hne, ih]
    simp [piecesBefore, piecesAfter]

theorem not_mem_of_mem_splitOn : ∀ {text s : List Char}, s ∈ text.splitOn '\n' → '\n' ∉ s
  | [], s, h => by
    rw [List.splitOn_nil, List.mem_singleton] at h
    simp [h]
  | c :: text, s, h => by
    rw [List.splitOn_cons_eq_if_modifyHead] at h
    split_ifs at h with hc
    · rcases List.mem_cons.1 h with rfl | h
      · simp
      · exact not_mem_of_mem_splitOn h
    · rcases hs : text.splitOn '\n' with _ | ⟨t, ls⟩
      · exact absurd hs (List.splitOn_ne_nil _ _)
      rw [hs, List.modifyHead_cons, List.mem_cons] at h
      rcases h with rfl | h
      · have ht := not_mem_of_mem_splitOn (hs ▸ List.mem_cons_self : t ∈ text.splitOn '\n')
        simp only [List.mem_cons, not_or]
        exact ⟨fun h => hc (by simp [← h]), ht⟩
      · exact not_mem_of_mem_splitOn (hs ▸ List.mem_cons_of_mem t h)

namespace Document

/-- The pieces of the text between line feeds. -/
def pieces (doc : Document) : List (List Char) :=
  doc.source.splitOn '\n'

theorem getElem?_startsAfter : ∀ (text : List Char) (offset n : Nat),
    (offset :: startsAfter offset text)[n]?
      = ((text.splitOn '\n')[n]?).map fun _ =>
          offset + utf8Length (piecesBefore (text.splitOn '\n') n)
  | [], offset, 0 => by simp [piecesBefore]
  | [], offset, n + 1 => by simp [startsAfter]
  | c :: text, offset, n => by
    have ih := getElem?_startsAfter text (offset + c.utf8Size)
    rw [List.splitOn_cons_eq_if_modifyHead, startsAfter]
    by_cases hc : c = '\n'
    · subst hc
      have hsize : '\n'.utf8Size = 1 := by decide
      rw [hsize] at ih ⊢
      rcases n with _ | n
      · simp [piecesBefore]
      · simp only [if_true, beq_self_eq_true, List.getElem?_cons_succ, ih n, piecesBefore,
          List.take_succ_cons, List.flatMap_cons, List.nil_append, utf8Length_append,
          utf8Length_cons, utf8Length_nil, hsize, Nat.add_zero, Nat.add_assoc]
    · rcases hs : text.splitOn '\n' with _ | ⟨t, ls⟩
      · exact absurd hs (List.splitOn_ne_nil _ _)
      rw [if_neg hc, if_neg (by simpa using hc), List.modifyHead_cons]
      rcases n with _ | n
      · simp [piecesBefore]
      · have ih := ih (n + 1)
        rw [hs, List.getElem?_cons_succ] at ih
        simp only [List.getElem?_cons_succ, ih, piecesBefore, List.take_succ_cons,
          List.flatMap_cons, utf8Length_append, utf8Length_cons, List.cons_append, Nat.add_assoc]

theorem getElem?_lineStarts (doc : Document) (n : Nat) :
    doc.lineStarts[n]? = (doc.pieces[n]?).map fun _ => utf8Length (piecesBefore doc.pieces n) := by
  simpa [pieces, lineStarts] using getElem?_startsAfter doc.source 0 n

theorem source_eq_intercalate (doc : Document) : ['\n'].intercalate doc.pieces = doc.source :=
  List.intercalate_splitOn '\n'

theorem source_eq {doc : Document} {n : Nat} {s : List Char} (h : doc.pieces[n]? = some s) :
    doc.source = piecesBefore doc.pieces n ++ s ++ piecesAfter doc.pieces n := by
  rw [← intercalate_eq h, source_eq_intercalate]

/-- Where a line's piece of the text ends: one byte before the next line, or with the text. -/
def stopOf (doc : Document) (n : Nat) : Nat :=
  match doc.lineStarts[n + 1]? with
  | some next => next - 1
  | none => utf8Length doc.source

theorem line?_eq_slice (doc : Document) (n : Nat) :
    doc.line? n
      = (doc.lineStarts[n]?).map fun start => dropReturn (slice doc.source start (doc.stopOf n)) :=
  rfl

theorem stopOf_eq {doc : Document} {n : Nat} {s : List Char} (h : doc.pieces[n]? = some s) :
    doc.stopOf n = utf8Length (piecesBefore doc.pieces n ++ s) := by
  rw [stopOf, getElem?_lineStarts]
  rcases hn : doc.pieces[n + 1]? with _ | t
  · have hlast : piecesAfter doc.pieces n = [] := by
      rw [piecesAfter, List.drop_eq_nil_of_le (List.getElem?_eq_none_iff.1 hn), List.flatMap_nil]
    simp only [Option.map_none]
    rw [source_eq h, hlast, List.append_nil]
  · simp only [Option.map_some]
    rw [piecesBefore_succ h, utf8Length_append _ ['\n']]
    rfl

theorem line?_eq (doc : Document) (n : Nat) : doc.line? n = (doc.pieces[n]?).map dropReturn := by
  rw [line?_eq_slice, getElem?_lineStarts]
  rcases h : doc.pieces[n]? with _ | s
  · rfl
  · simp only [Option.map_some]
    rw [stopOf_eq h, utf8Length_append, source_eq h, slice_append]

theorem line?_eq_some_iff {doc : Document} {n : Nat} {line : List Char} :
    doc.line? n = some line ↔ ∃ s, doc.pieces[n]? = some s ∧ dropReturn s = line := by
  rw [line?_eq, Option.map_eq_some_iff]

theorem line?_isSome_iff {doc : Document} {n : Nat} :
    (doc.line? n).isSome ↔ n < doc.pieces.length := by
  rw [line?_eq, Option.isSome_map, isSome_getElem?]

/-- Every line above a line exists. -/
theorem line?_isSome_of_le {doc : Document} {m n : Nat} (h : (doc.line? n).isSome) (hle : m ≤ n) :
    (doc.line? m).isSome := by
  rw [line?_isSome_iff] at h ⊢
  omega

/-- A line is its piece, but for one carriage return. -/
theorem dropReturn_cases (s : List Char) :
    dropReturn s = s ∧ s.getLast? ≠ some '\r' ∨ s = dropReturn s ++ ['\r'] := by
  rw [dropReturn]
  split_ifs with h
  · obtain ⟨t, rfl⟩ := List.getLast?_eq_some_iff.1 h
    exact Or.inr (by simp)
  · exact Or.inl ⟨rfl, h⟩

/-- A line with the ending that it does not show is a piece of the text. -/
theorem exists_piece {doc : Document} {n : Nat} {line : List Char} (h : doc.line? n = some line) :
    ∃ ending, doc.pieces[n]? = some (line ++ ending) ∧ dropReturn (line ++ ending) = line := by
  obtain ⟨piece, hp, hl⟩ := line?_eq_some_iff.1 h
  obtain ⟨ending, rfl⟩ : ∃ ending, piece = line ++ ending := by
    rcases dropReturn_cases piece with ⟨heq, -⟩ | heq
    · exact ⟨[], by rw [← hl, heq, List.append_nil]⟩
    · exact ⟨['\r'], by rw [← hl]; exact heq⟩
  exact ⟨ending, hp, hl⟩

theorem dropReturn_append_return (s : List Char) : dropReturn (s ++ ['\r']) = s := by
  simp [dropReturn]

end Document

end GlslAssist
