import GlslAssist.Proofs.OpenCalls

/-!
# The window of a search

A search for a call site sees the text of its position's line up to the cursor, and the lines of its
window above it; where these stand in the document, and all the rest of it, makes no difference. A
larger window adds text above the smaller, which is read only if the smaller holds no parenthesis
that is left open: a parenthesis without a name before it ends the search as well, with nothing
found (`find_sees_window`).
-/

namespace GlslAssist

open Text

namespace CallSite

variable {doc : Document} {pos : Position} {lookback : Nat}

/-- Two positions with the same text before them, as far up as a search may look. -/
structure SameWindow (doc₁ doc₂ : Document) (pos₁ pos₂ : Position) (lookback : Nat) : Prop where
  height : min pos₁.line lookback = min pos₂.line lookback
  above : ∀ j, 1 ≤ j → j ≤ min pos₁.line lookback →
    doc₁.line? (pos₁.line - j) = doc₂.line? (pos₂.line - j)
  cursor : ∃ line₁ line₂, doc₁.line? pos₁.line = some line₁ ∧ doc₂.line? pos₂.line = some line₂
    ∧ slice line₁ 0 (columnToByte line₁ pos₁.character)
      = slice line₂ 0 (columnToByte line₂ pos₂.character)

theorem linesAbove_agree {doc₁ doc₂ : Document} : ∀ {n₁ n₂ count : Nat},
    min n₁ count = min n₂ count →
    (∀ j, 1 ≤ j → j ≤ min n₁ count → doc₁.line? (n₁ - j) = doc₂.line? (n₂ - j)) →
      linesAbove doc₁ n₁ count = linesAbove doc₂ n₂ count
  | n₁, n₂, 0, _, _ => by
    cases n₁ <;> cases n₂ <;> rfl
  | 0, 0, count + 1, _, _ => rfl
  | 0, n₂ + 1, count + 1, hheight, _ => by omega
  | n₁ + 1, 0, count + 1, hheight, _ => by omega
  | n₁ + 1, n₂ + 1, count + 1, hheight, habove => by
    have hfirst : doc₁.line? n₁ = doc₂.line? n₂ := habove 1 (Nat.le_refl 1) (by omega)
    have hrest : linesAbove doc₁ n₁ count = linesAbove doc₂ n₂ count := by
      refine linesAbove_agree (by omega) fun j hj hle => ?_
      have hnext := habove (j + 1) (by omega) (by omega)
      rwa [Nat.add_sub_add_right, Nat.add_sub_add_right] at hnext
    rw [linesAbove, linesAbove, hfirst, hrest]

theorem linesAbove_congr {edited : Document} {n : Nat} (count : Nat)
    (h : ∀ k, k < n → edited.line? k = doc.line? k) :
    linesAbove edited n count = linesAbove doc n count :=
  linesAbove_agree rfl fun j hj hle => h (n - j) (by omega)

theorem window_of_partsAt {p q : List Char} (h : doc.PartsAt pos p q) (lookback : Nat) :
    window doc pos lookback = some (p :: linesAbove doc pos.line lookback) := by
  rw [window, h.line, Option.map_some, h.offset, slice_zero_append]

/-- The search over a window that it has. -/
theorem find_of_window {lines : List (List Char)} (h : window doc pos lookback = some lines) :
    find doc pos lookback = (readLines lines 0 0).bind fun found =>
      (trailingIdentifier found.1).map fun name => ⟨String.ofList name, found.2⟩ := by
  rw [find, h]
  simp only []
  rcases readLines lines 0 0 with _ | ⟨before, commas⟩
  · rfl
  · rfl

theorem SameWindow.window_eq {doc₁ doc₂ : Document} {pos₁ pos₂ : Position}
    (h : SameWindow doc₁ doc₂ pos₁ pos₂ lookback) :
    window doc₁ pos₁ lookback = window doc₂ pos₂ lookback := by
  obtain ⟨line₁, line₂, hline₁, hline₂, hcursor⟩ := h.cursor
  rw [window, window, hline₁, hline₂, Option.map_some, Option.map_some, hcursor,
    linesAbove_agree h.height h.above]

theorem SameWindow.find_eq {doc₁ doc₂ : Document} {pos₁ pos₂ : Position}
    (h : SameWindow doc₁ doc₂ pos₁ pos₂ lookback) :
    find doc₁ pos₁ lookback = find doc₂ pos₂ lookback := by
  rw [find, find, h.window_eq]

/-! ## Larger windows -/

theorem exists_linesAbove_append (doc : Document) : ∀ {n count count' : Nat}, count ≤ count' →
    ∃ further, linesAbove doc n count' = linesAbove doc n count ++ further
  | n, 0, count', _ => by
    refine ⟨linesAbove doc n count', ?_⟩
    cases n <;> rfl
  | 0, count + 1, count' + 1, _ => ⟨[], rfl⟩
  | n + 1, count + 1, count' + 1, hle => by
    obtain ⟨further, h⟩ := exists_linesAbove_append doc (n := n) (Nat.le_of_succ_le_succ hle)
    exact ⟨further, by rw [linesAbove, linesAbove, h, List.append_assoc]⟩

/-- Lines further up are read only if the nearer ones end the search nowhere. -/
theorem readLines_append : ∀ (lines further : List (List Char)) (depth commas : Nat)
    {found : List Char × Nat}, readLines lines depth commas = some found →
      readLines (lines ++ further) depth commas = some found
  | [], _, _, _, _, h => by simp [readLines] at h
  | line :: lines, further, depth, commas, found, h => by
    rw [readLines] at h
    rw [List.cons_append, readLines]
    rcases hline : readBack line.reverse depth commas with ⟨before, commas'⟩ | ⟨depth', commas'⟩
    · rwa [hline] at h
    · rw [hline] at h
      exact readLines_append lines further depth' commas' h

theorem find_of_line? {line : List Char} (h : doc.line? pos.line = some line) (lookback : Nat) :
    find doc pos lookback = (readLines (slice line 0 (columnToByte line pos.character)
        :: linesAbove doc pos.line lookback) 0 0).bind fun found =>
      (trailingIdentifier found.1).map fun name => ⟨String.ofList name, found.2⟩ :=
  find_of_window (by rw [window, h, Option.map_some])

theorem readLines_eq_none_iff {lines : List (List Char)}
    (h : window doc pos lookback = some lines) :
    readLines lines 0 0 = none ↔ openCalls (textBefore doc pos lookback) = [] := by
  rw [window_eq, Option.map_eq_some_iff] at h
  obtain ⟨line, -, rfl⟩ := h
  have hread := readLines_textBefore doc pos lookback
  split at hread
  · rename_i hnone
    exact iff_of_true hnone hread
  · rename_i before commas hfound
    obtain ⟨n, outer, rest, hopen, -⟩ := hread
    rw [hfound, hopen]
    exact iff_of_false (Option.some_ne_none _) (List.cons_ne_nil _ outer)

/-- Where a window holds a parenthesis that is left open, a larger one gives the same result. -/
theorem find_eq_of_open (hopen : openCalls (textBefore doc pos lookback) ≠ []) {more : Nat}
    (hle : lookback ≤ more) : find doc pos more = find doc pos lookback := by
  rcases hline : doc.line? pos.line with _ | line
  · rw [textBefore, hline] at hopen
    exact absurd rfl hopen
  rw [Ne, ← readLines_eq_none_iff (by rw [window, hline, Option.map_some]), ← Ne,
    Option.ne_none_iff_exists'] at hopen
  obtain ⟨found, hfound⟩ := hopen
  obtain ⟨further, habove⟩ := exists_linesAbove_append doc (n := pos.line) hle
  have hmore := readLines_append _ further 0 0 hfound
  rw [List.cons_append, ← habove] at hmore
  rw [find_of_line? hline, find_of_line? hline, hfound, hmore]

theorem openCalls_of_find {site : CallSite} (h : find doc pos lookback = some site) :
    openCalls (textBefore doc pos lookback) ≠ [] := by
  intro hnone
  rw [find_eq_innermost, hnone] at h
  simp at h

/-! ## No bound -/

/-- All the text before a position, line by line. -/
def allBefore (doc : Document) (pos : Position) : List (Nat × List Char) :=
  match doc.line? pos.line with
  | none => []
  | some line =>
    ((List.range pos.line).filterMap fun n => (doc.line? n).map (n, ·))
      ++ [(pos.line, slice line 0 (columnToByte line pos.character))]

/-- The call around a position when the whole text before it is read. -/
def findUnbounded (doc : Document) (pos : Position) : Option CallSite :=
  (openCalls (allBefore doc pos)).head?.bind (Frame.callSite? doc)

theorem textBefore_of_le (h : pos.line ≤ lookback) :
    textBefore doc pos lookback = allBefore doc pos := by
  rw [textBefore, allBefore, List.range_eq_range', Nat.sub_eq_zero_of_le h]
  rfl

theorem find_eq_findUnbounded (h : pos.line ≤ lookback) :
    find doc pos lookback = findUnbounded doc pos := by
  rw [find_eq_innermost, textBefore_of_le h, findUnbounded]

/-- A search depends on what it sees and on nothing else. What it finds it finds with every larger
window; the results of two windows differ only if the smaller holds no parenthesis that is left open;
and a window that begins with the document is as good as none. -/
theorem find_sees_window :
    (∀ doc₁ doc₂ pos₁ pos₂ lookback, SameWindow doc₁ doc₂ pos₁ pos₂ lookback →
        find doc₁ pos₁ lookback = find doc₂ pos₂ lookback)
      ∧ ∀ doc pos lookback,
        (∀ more, lookback ≤ more →
          (∀ site, find doc pos lookback = some site → find doc pos more = some site)
            ∧ (find doc pos lookback ≠ find doc pos more →
              openCalls (textBefore doc pos lookback) = []))
          ∧ (pos.line ≤ lookback → find doc pos lookback = findUnbounded doc pos) := by
  refine ⟨fun _ _ _ _ _ h => h.find_eq, fun doc pos lookback => ⟨fun more hle => ⟨?_, ?_⟩, ?_⟩⟩
  · intro site hsite
    rw [find_eq_of_open (openCalls_of_find hsite) hle, hsite]
  · intro hne
    by_contra hopen
    exact hne (find_eq_of_open hopen hle).symm
  · exact find_eq_findUnbounded

/-- The same two lines before the cursor, at other places and among other lines. Of the second
document's call a smaller window sees nothing. -/
theorem find_sees_window_moved :
    let doc₁ := Document.ofText "cos(\nmix(a,\né b) * f("
    let doc₂ := Document.ofText "pow(\n\nmix(a,\né b, π"
    SameWindow doc₁ doc₂ ⟨2, 3⟩ ⟨3, 3⟩ 1
      ∧ find doc₁ ⟨2, 3⟩ 1 = some ⟨"mix", 1⟩ ∧ find doc₂ ⟨3, 3⟩ 1 = some ⟨"mix", 1⟩
      ∧ find doc₂ ⟨3, 3⟩ 2 = some ⟨"mix", 1⟩ ∧ findUnbounded doc₂ ⟨3, 3⟩ = some ⟨"mix", 1⟩
      ∧ find doc₂ ⟨3, 3⟩ 0 ≠ find doc₂ ⟨3, 3⟩ 1 ∧ openCalls (textBefore doc₂ ⟨3, 3⟩ 0) = [] := by
  intro doc₁ doc₂
  have hsame : SameWindow doc₁ doc₂ ⟨2, 3⟩ ⟨3, 3⟩ 1 := by
    refine ⟨rfl, fun j hj hle => ?_, "é b) * f(".toList, "é b, π".toList, by decide⟩
    have hle : j ≤ 1 := hle
    obtain rfl : j = 1 := Nat.le_antisymm hle hj
    decide
  have hfirst : find doc₁ ⟨2, 3⟩ 1 = some ⟨"mix", 1⟩ := by decide
  have hne : find doc₂ ⟨3, 3⟩ 0 ≠ find doc₂ ⟨3, 3⟩ 1 := by decide
  obtain ⟨hlocal, hbound⟩ := find_sees_window
  have hsecond := (hlocal doc₁ doc₂ ⟨2, 3⟩ ⟨3, 3⟩ 1 hsame).symm.trans hfirst
  have hmore := ((hbound doc₂ ⟨3, 3⟩ 1).1 2 (by decide)).1 _ hsecond
  have hfar := ((hbound doc₂ ⟨3, 3⟩ 1).1 3 (by decide)).1 _ hsecond
  exact ⟨hsame, hfirst, hsecond, hmore, ((hbound doc₂ ⟨3, 3⟩ 3).2 (by decide)).symm.trans hfar, hne,
    ((hbound doc₂ ⟨3, 3⟩ 0).1 1 (by decide)).2 hne⟩

end CallSite

end GlslAssist
