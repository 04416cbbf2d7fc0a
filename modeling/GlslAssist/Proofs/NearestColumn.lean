import GlslAssist.Completion
import GlslAssist.Proofs.Rounding
import GlslAssist.Proofs.Window
import GlslAssist.SignatureHelp

/-!
# Columns between characters

An editor may send any column of a line, also one past its end or inside a surrogate pair. Each is
answered as the last column before it that stands between two characters (`answers_at_nearest`):
whatever is asked at a position depends on the line it is on and on the two parts that its column
cuts this line into (`Document.SamePlace`), and never shows the column that was sent.
-/

namespace GlslAssist

namespace Text

variable {line : List Char} {column : Nat}

/-- The column that a column of the line is taken for. -/
def nearestColumn (line : List Char) (column : Nat) : Nat :=
  byteToColumn line (columnToByte line column)

theorem columnToByte_nearestColumn (line : List Char) (column : Nat) :
    columnToByte line (nearestColumn line column) = columnToByte line column := by
  obtain ⟨p, q, rfl, hp⟩ := columnToByte_eq line column
  exact columnToByte_byteToColumn ⟨p, q, rfl, hp⟩

theorem nearestColumn_idem (line : List Char) (column : Nat) :
    nearestColumn line (nearestColumn line column) = nearestColumn line column := by
  rw [nearestColumn, columnToByte_nearestColumn, nearestColumn]

theorem nearestColumn_isGreatest (line : List Char) (column : Nat) :
    IsGreatest {k | IsColumn line k ∧ k ≤ column} (nearestColumn line column) := by
  obtain ⟨p, q, rfl, hp⟩ := columnToByte_eq line column
  rw [nearestColumn, hp, byteToColumn_append]
  exact (columnToByte_eq_iff.1 hp).isGreatest

/-- Past the end of its line a column cuts nothing off. -/
theorem columnToByte_of_le (h : utf16Length line ≤ column) :
    columnToByte line column = columnToByte line (utf16Length line) := by
  have hcut {k : Nat} (hk : utf16Length line ≤ k) : columnToByte (line ++ []) k = utf8Length line :=
    columnToByte_eq_iff.2 ⟨hk, by simp⟩
  rw [List.append_nil] at hcut
  rw [hcut h, hcut (Nat.le_refl _)]

theorem columnToByte_of_inside (h : InsideSurrogatePair line column) :
    columnToByte line column = columnToByte line (column - 1) := by
  obtain ⟨p, c, q, rfl, hc, rfl⟩ := h
  have hcut : CutAt (utf16Length p + 1) p (c :: q) := by
    refine ⟨Nat.le_succ _, fun d hd => ?_⟩
    obtain rfl := Option.some.inj hd
    omega
  rw [columnToByte_eq_iff.2 hcut, Nat.add_sub_cancel, columnToByte_append]

end Text

open Text

namespace Document

variable {doc : Document} {pos pos' : Position}

/-- The positions are on one line, and their columns cut it into the same two parts. -/
structure SamePlace (doc : Document) (pos pos' : Position) : Prop where
  line_eq : pos.line = pos'.line
  parts : ∃ p q, doc.PartsAt pos p q ∧ doc.PartsAt pos' p q

theorem samePlace_of_columnToByte {n column column' : Nat} {line : List Char}
    (hline : doc.line? n = some line) (h : columnToByte line column = columnToByte line column') :
    doc.SamePlace ⟨n, column⟩ ⟨n, column'⟩ := by
  obtain ⟨p, q, rfl, hp⟩ := columnToByte_eq line column
  exact ⟨rfl, p, q, ⟨hline, hp⟩, ⟨hline, h.symm.trans hp⟩⟩

theorem SamePlace.wordAt_eq (h : doc.SamePlace pos pos') : doc.wordAt pos = doc.wordAt pos' := by
  obtain ⟨hline, p, q, hp, hp'⟩ := h
  rw [wordAt_of_partsAt hp, wordAt_of_partsAt hp', hline]

theorem SamePlace.wordUntil_eq (h : doc.SamePlace pos pos') :
    doc.wordUntil pos = doc.wordUntil pos' := by
  obtain ⟨hline, p, q, hp, hp'⟩ := h
  rw [wordUntil_of_partsAt hp, wordUntil_of_partsAt hp', hline]

theorem SamePlace.completionRange_eq (h : doc.SamePlace pos pos') :
    doc.completionRange pos = doc.completionRange pos' := by
  obtain ⟨hline, p, q, hp, hp'⟩ := h
  rw [completionRange_of_partsAt hp, completionRange_of_partsAt hp', hline]

theorem SamePlace.findCall_eq (h : doc.SamePlace pos pos') (lookback : Nat) :
    CallSite.find doc pos lookback = CallSite.find doc pos' lookback := by
  obtain ⟨hline, p, q, hp, hp'⟩ := h
  rw [CallSite.find, CallSite.find, CallSite.window_of_partsAt hp, CallSite.window_of_partsAt hp',
    hline]

/-- Whatever is asked about the document has one answer at both positions. -/
structure SameAnswers (doc : Document) (pos pos' : Position) : Prop where
  wordAt : doc.wordAt pos = doc.wordAt pos'
  wordUntil : doc.wordUntil pos = doc.wordUntil pos'
  completionRange : doc.completionRange pos = doc.completionRange pos'
  hover : ∀ registry, Hover.find registry doc pos = Hover.find registry doc pos'
  completion : ∀ registry, Completion.find registry doc pos = Completion.find registry doc pos'
  callSite : ∀ lookback, CallSite.find doc pos lookback = CallSite.find doc pos' lookback
  signatureHelp : ∀ registry lookback,
    SignatureHelp.find registry lookback doc pos = SignatureHelp.find registry lookback doc pos'

theorem SamePlace.sameAnswers (h : doc.SamePlace pos pos') : doc.SameAnswers pos pos' := by
  refine ⟨h.wordAt_eq, h.wordUntil_eq, h.completionRange_eq, fun registry => ?_,
    fun registry => ?_, h.findCall_eq, fun registry lookback => ?_⟩
  · rw [Hover.find, Hover.find, h.wordAt_eq]
  · rw [Completion.find, Completion.find, Completion.ofCandidates, Completion.ofCandidates,
      h.wordUntil_eq, h.completionRange_eq]
  · rw [SignatureHelp.find, SignatureHelp.find, h.findCall_eq]

/-- On a line, every column is answered as the last one before it, or itself, that stands between two
characters, which is taken for itself. So all columns past the line are answered as its end, and one
inside a surrogate pair as the column before it. -/
theorem answers_at_nearest {doc : Document} {n : Nat} {line : List Char}
    (hline : doc.line? n = some line) :
    (∀ column, nearestColumn line column ≤ column
        ∧ nearestColumn line (nearestColumn line column) = nearestColumn line column
        ∧ IsGreatest {k | IsColumn line k ∧ k ≤ column} (nearestColumn line column)
        ∧ doc.SameAnswers ⟨n, column⟩ ⟨n, nearestColumn line column⟩)
      ∧ (∀ column, utf16Length line ≤ column →
        doc.SameAnswers ⟨n, column⟩ ⟨n, utf16Length line⟩)
      ∧ ∀ column, InsideSurrogatePair line column →
        doc.SameAnswers ⟨n, column⟩ ⟨n, column - 1⟩ := by
  refine ⟨fun column => ?_, fun column hpast => ?_, fun column hinside => ?_⟩
  · have hgreatest := nearestColumn_isGreatest line column
    have hplace : doc.SamePlace ⟨n, column⟩ ⟨n, nearestColumn line column⟩ :=
      samePlace_of_columnToByte hline (columnToByte_nearestColumn line column).symm
    exact ⟨hgreatest.1.2, nearestColumn_idem line column, hgreatest, hplace.sameAnswers⟩
  · exact (samePlace_of_columnToByte hline (columnToByte_of_le hpast)).sameAnswers
  · exact (samePlace_of_columnToByte hline (columnToByte_of_inside hinside)).sameAnswers

/-- A column inside the pair after a name touches the name, and one past the line stands after the
parenthesis of the call. -/
theorem answers_at_nearest_pair :
    let doc := ofText "sin😀 mix(é"
    let line := "sin😀 mix(é".toList
    doc.line? 0 = some line ∧ InsideSurrogatePair line 4 ∧ nearestColumn line 4 = 3
      ∧ doc.wordAt ⟨0, 4⟩ = some ⟨"sin", ⟨⟨0, 0⟩, ⟨0, 3⟩⟩⟩
      ∧ utf16Length line ≤ 99 ∧ CallSite.find doc ⟨0, 99⟩ 20 = some ⟨"mix", 0⟩ := by
  intro doc line
  have hline : doc.line? 0 = some line := by decide
  have hinside : InsideSurrogatePair line 4 := ⟨"sin".toList, '😀', " mix(é".toList, rfl, rfl, rfl⟩
  have hpast : utf16Length line ≤ 99 := by decide
  obtain ⟨-, hend, hpair⟩ := answers_at_nearest hline
  refine ⟨hline, hinside, by decide, ?_, hpast, ?_⟩
  · rw [(hpair 4 hinside).wordAt]
    decide
  · rw [(hend 99 hpast).callSite]
    decide

end Document

end GlslAssist
