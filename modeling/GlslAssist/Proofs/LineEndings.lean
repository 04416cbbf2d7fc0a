import GlslAssist.Completion
import GlslAssist.Proofs.Window
import GlslAssist.SignatureHelp

/-!
# Line endings

A text whose lines end in a carriage return and a line feed has the lines of the text that has the
line feeds alone (`sameLines_withReturns`), though every byte offset in it is another. Whatever is
asked about a document is answered from its lines, so the answers are the same as well
(`answers_withReturns`).
-/

namespace GlslAssist

open Text

/-- A line feed with a carriage return before it; any other character as it is. -/
def lineFeedWithReturn (c : Char) : List Char :=
  if c = '\n' then ['\r', '\n'] else [c]

/-- The text with a carriage return and a line feed in the place of every line feed. -/
def withReturns (text : String) : String :=
  String.ofList (text.toList.flatMap lineFeedWithReturn)

namespace Document

theorem dropReturn_cons {c : Char} (hc : c ≠ '\r') (s : List Char) :
    dropReturn (c :: s) = c :: dropReturn s := by
  rcases s with _ | ⟨d, s⟩
  · simp [dropReturn, hc]
  · rw [dropReturn, dropReturn, List.getLast?_cons_cons]
    split_ifs
    · rfl
    · rfl

/-- A carriage return put before each line feed ends the pieces of the text but the last, and no piece
has another that its line would drop. -/
theorem map_dropReturn_splitOn : ∀ {text : List Char}, '\r' ∉ text →
    ((text.flatMap lineFeedWithReturn).splitOn '\n').map dropReturn
      = (text.splitOn '\n').map dropReturn
  | [], _ => rfl
  | c :: text, h => by
    rw [List.mem_cons, not_or] at h
    have ih := map_dropReturn_splitOn h.2
    rw [List.flatMap_cons, lineFeedWithReturn]
    split_ifs with hc
    · subst hc
      simp only [List.cons_append, List.nil_append, List.splitOn_cons_eq_if_modifyHead]
      simp [ih, dropReturn]
    · have hne : (c == '\n') = false := by simpa using hc
      have hdrop := dropReturn_cons (Ne.symm h.1)
      simp only [List.singleton_append, List.splitOn_cons_eq_if_modifyHead, hne]
      rcases hold : text.splitOn '\n' with _ | ⟨s, ls⟩
      · exact absurd hold (List.splitOn_ne_nil _ _)
      rcases hnew : (text.flatMap lineFeedWithReturn).splitOn '\n' with _ | ⟨s', ls'⟩
      · exact absurd hnew (List.splitOn_ne_nil _ _)
      rw [hold, hnew, List.map_cons, List.map_cons, List.cons.injEq] at ih
      simp [hdrop, ih]

/-- The documents have the same lines, and the same number of them. -/
def SameLines (doc doc' : Document) : Prop :=
  ∀ n, doc.line? n = doc'.line? n

theorem sameLines_withReturns {text : String} (h : '\r' ∉ text.toList) :
    SameLines (ofText (withReturns text)) (ofText text) := by
  intro n
  rw [line?_eq, line?_eq, ← List.getElem?_map, ← List.getElem?_map, pieces, pieces, ofText, ofText,
    withReturns, String.toList_ofList, map_dropReturn_splitOn h]

/-! ## What reads the lines only -/

variable {doc doc' : Document}

theorem SameLines.wordAt_eq (h : SameLines doc doc') (pos : Position) :
    doc.wordAt pos = doc'.wordAt pos := by
  rw [wordAt, wordAt, h pos.line]

theorem SameLines.wordUntil_eq (h : SameLines doc doc') (pos : Position) :
    doc.wordUntil pos = doc'.wordUntil pos := by
  rw [wordUntil, wordUntil, h pos.line]

theorem SameLines.completionRange_eq (h : SameLines doc doc') (pos : Position) :
    doc.completionRange pos = doc'.completionRange pos := by
  rw [completionRange, completionRange, h pos.line]

theorem SameLines.findCall_eq (h : SameLines doc doc') (pos : Position) (lookback : Nat) :
    CallSite.find doc pos lookback = CallSite.find doc' pos lookback := by
  have habove := CallSite.linesAbove_congr lookback fun k (_ : k < pos.line) => h k
  rw [CallSite.find, CallSite.find, CallSite.window, CallSite.window, h pos.line, habove]

end Document

/-- In a text without carriage returns, to put one before every line feed changes no line and no
answer. -/
theorem answers_withReturns {text : String} (h : '\r' ∉ text.toList) :
    let doc := Document.ofText text
    let doc' := Document.ofText (withReturns text)
    (∀ n, doc'.line? n = doc.line? n)
      ∧ ∀ registry pos lookback,
        Hover.find registry doc' pos = Hover.find registry doc pos
          ∧ Completion.find registry doc' pos = Completion.find registry doc pos
          ∧ SignatureHelp.find registry lookback doc' pos
            = SignatureHelp.find registry lookback doc pos := by
  intro doc doc'
  have hlines : Document.SameLines doc' doc := Document.sameLines_withReturns h
  refine ⟨hlines, fun registry pos lookback => ⟨?_, ?_, ?_⟩⟩
  · rw [Hover.find, Hover.find, hlines.wordAt_eq]
  · rw [Completion.find, Completion.find, Completion.ofCandidates, Completion.ofCandidates,
      hlines.wordUntil_eq, hlines.completionRange_eq]
  · rw [SignatureHelp.find, SignatureHelp.find, hlines.findCall_eq]

/-- A call over two lines, an empty line after them, and a column past the end of its line. -/
theorem answers_withReturns_call :
    let text := "mix(é,\nu_time, \n"
    let doc' := Document.ofText (withReturns text)
    '\r' ∉ text.toList ∧ withReturns text = "mix(é,\r\nu_time, \r\n"
      ∧ doc'.line? 1 = some "u_time, ".toList ∧ doc'.line? 2 = some [] ∧ doc'.line? 3 = none
      ∧ (SignatureHelp.find .builtin 20 doc' ⟨1, 99⟩).map (·.activeParameter) = some 2 := by
  intro text doc'
  have h : '\r' ∉ text.toList := by decide
  obtain ⟨hlines, hanswers⟩ := answers_withReturns h
  refine ⟨h, by decide, (hlines 1).trans (by decide), (hlines 2).trans (by decide),
    (hlines 3).trans (by decide), ?_⟩
  rw [(hanswers .builtin ⟨1, 99⟩ 20).2.2]
  decide

end GlslAssist
