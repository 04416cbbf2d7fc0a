import GlslAssist.Document
import GlslAssist.Proofs.IdentifierRuns

/-!
# Words around a cursor

A cursor on a line parts it in what is before and what is after (`PartsAt`), and the three queries
about words read only that: the run that touches the cursor is the identifier characters that end
the first part and those that begin the second.
-/

namespace GlslAssist

open Text

/-- The range of the characters `m` on line `n` after the characters `a`. -/
def spanOf (n : Nat) (a m : List Char) : Range :=
  ⟨⟨n, utf16Length a⟩, ⟨n, utf16Length (a ++ m)⟩⟩

@[simp] theorem spanOf_start (n : Nat) (a m : List Char) :
    (spanOf n a m).start = ⟨n, utf16Length a⟩ :=
  rfl

/-- The identifier characters on either side of a cut. -/
def runAround (p q : List Char) : List Char :=
  p.rtakeWhile isIdentChar ++ q.takeWhile isIdentChar

theorem parts_eq (p q : List Char) :
    p ++ q = p.rdropWhile isIdentChar ++ runAround p q ++ q.dropWhile isIdentChar := by
  rw [runAround, ← List.append_assoc, List.rdropWhile_append_rtakeWhile, List.append_assoc,
    List.takeWhile_append_dropWhile]

theorem append_takeWhile_eq (p q : List Char) :
    p ++ q.takeWhile isIdentChar = p.rdropWhile isIdentChar ++ runAround p q := by
  rw [runAround, ← List.append_assoc, List.rdropWhile_append_rtakeWhile]

namespace Document

/-- The position stands on a line, between the characters `p` and `q` of it. -/
structure PartsAt (doc : Document) (pos : Position) (p q : List Char) : Prop where
  line : doc.line? pos.line = some (p ++ q)
  offset : columnToByte (p ++ q) pos.character = utf8Length p

variable {doc : Document} {pos : Position} {p q line : List Char}

theorem exists_partsAt (h : doc.line? pos.line = some line) : ∃ p q, doc.PartsAt pos p q := by
  obtain ⟨p, q, rfl, hp⟩ := columnToByte_eq line pos.character
  exact ⟨p, q, h, hp⟩

theorem partsAt_column {n : Nat} (h : doc.line? n = some (p ++ q)) :
    doc.PartsAt ⟨n, utf16Length p⟩ p q :=
  ⟨h, columnToByte_append p q⟩

theorem wordBetween_append (n : Nat) (a m b : List Char) :
    wordBetween n (a ++ m ++ b) (utf8Length a) (utf8Length (a ++ m))
      = ⟨String.ofList m, spanOf n a m⟩ := by
  have hs := slice_append a m b
  have ha : byteToColumn (a ++ m ++ b) (utf8Length a) = utf16Length a := by
    rw [List.append_assoc, byteToColumn_append]
  rw [← utf8Length_append] at hs
  rw [wordBetween, hs, ha, byteToColumn_append (a ++ m) b, spanOf]

theorem wordBetween_runAround (n : Nat) (p q : List Char) :
    wordBetween n (p ++ q) (identStart (p ++ q) (utf8Length p)) (identEnd (p ++ q) (utf8Length p))
      = ⟨String.ofList (runAround p q), spanOf n (p.rdropWhile isIdentChar) (runAround p q)⟩ := by
  rw [identStart_append, identEnd_append, append_takeWhile_eq, parts_eq p q, wordBetween_append]

theorem completionRange_of_partsAt (h : doc.PartsAt pos p q) :
    doc.completionRange pos = spanOf pos.line (p.rdropWhile isIdentChar) (runAround p q) := by
  simp only [completionRange, h.line, h.offset, wordBetween_runAround]

theorem wordUntil_of_partsAt (h : doc.PartsAt pos p q) :
    doc.wordUntil pos = ⟨String.ofList (p.rtakeWhile isIdentChar),
      spanOf pos.line (p.rdropWhile isIdentChar) (p.rtakeWhile isIdentChar)⟩ := by
  have hb := wordBetween_append pos.line (p.rdropWhile isIdentChar) (p.rtakeWhile isIdentChar) q
  rw [List.rdropWhile_append_rtakeWhile] at hb
  simp only [wordUntil, h.line, h.offset, identStart_append, hb]

theorem identStart_eq_identEnd_iff (p q : List Char) :
    identStart (p ++ q) (utf8Length p) = identEnd (p ++ q) (utf8Length p)
      ↔ runAround p q = [] := by
  have hp := utf8Length_rdropWhile p
  rw [identStart_append, identEnd_append, utf8Length_append, runAround, List.append_eq_nil_iff,
    ← utf8Length_eq_zero_iff, ← utf8Length_eq_zero_iff]
  omega

theorem wordAt_of_partsAt (h : doc.PartsAt pos p q) :
    doc.wordAt pos = if runAround p q = [] then none
      else some ⟨String.ofList (runAround p q),
        spanOf pos.line (p.rdropWhile isIdentChar) (runAround p q)⟩ := by
  simp only [wordAt, h.line, h.offset, identStart_eq_identEnd_iff, wordBetween_runAround]

end Document

end GlslAssist
