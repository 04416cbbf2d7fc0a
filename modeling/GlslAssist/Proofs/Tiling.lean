import GlslAssist.Proofs.Rounding
import GlslAssist.Proofs.Tokens

/-!
# Words tile their line

The three queries about words agree with one another: what is typed so far ends at the cursor and
begins where the range to complete begins, and a word is found exactly where this range is not empty
(`words_tile`). Every column of a word finds the same word, so two words of one line that are not the
same have a column between them that belongs to neither.
-/

namespace GlslAssist

open Text

/-- The word is what its range cuts out of line `n`, and is made of identifier characters. -/
structure Word.StandsOn (word : Word) (n : Nat) (line : List Char) : Prop where
  start_line : word.range.start.line = n
  stop_line : word.range.stop.line = n
  text_eq : word.text.toList = slice line (columnToByte line word.range.start.character)
    (columnToByte line word.range.stop.character)
  ident : ∀ c ∈ word.text.toList, isIdentChar c = true
  length : word.range.stop.character = word.range.start.character + word.text.length

namespace Word

variable {word other : Word} {n : Nat} {line a m b : List Char}

theorem standsOn_spanOf (hline : line = a ++ m ++ b) (hident : ∀ c ∈ m, isIdentChar c = true) :
    StandsOn ⟨String.ofList m, spanOf n a m⟩ n line := by
  have hascii : ∀ c ∈ m, IsAscii c := fun c hc => ascii_of_isIdentChar (hident c hc)
  refine ⟨rfl, rfl, ?_, ?_, ?_⟩
  · rw [String.toList_ofList, hline]
    exact (slice_columns a m b).symm
  · rwa [String.toList_ofList]
  · rw [String.length_ofList]
    simp only [spanOf, utf16Length_append, utf16Length_of_ascii hascii]

/-- One of the words ends before the other begins, with a column between them. -/
def Apart (word other : Word) : Prop :=
  word.range.stop.character < other.range.start.character
    ∨ other.range.stop.character < word.range.start.character

end Word

/-- The range of a run is empty at a cut of it exactly when the run is. -/
theorem IsRun.spanOf_eq_empty_iff {n : Nat} {a l r b : List Char} (h : IsRun a (l ++ r) b) :
    spanOf n a (l ++ r) = ⟨⟨n, utf16Length (a ++ l)⟩, ⟨n, utf16Length (a ++ l)⟩⟩ ↔ l ++ r = [] := by
  constructor
  · intro hempty
    simp only [spanOf, Range.mk.injEq, Position.mk.injEq, true_and, utf16Length_append] at hempty
    have hlen : (l ++ r).length = 0 := by
      rw [← h.utf16Length_eq, utf16Length_append]
      omega
    exact List.length_eq_zero_iff.1 hlen
  · intro hnil
    obtain ⟨rfl, rfl⟩ := List.append_eq_nil_iff.1 hnil
    simp only [spanOf, List.append_nil]

namespace Document

variable {doc : Document} {n column column' : Nat} {word other : Word}

/-- A word is found on an identifier run that is not empty. -/
theorem exists_touchedRun_of_wordAt (h : doc.wordAt ⟨n, column⟩ = some word) :
    ∃ line a m b, doc.line? n = some line ∧ TouchedRun line column a m b ∧ m ≠ []
      ∧ word = ⟨String.ofList m, spanOf n a m⟩ := by
  rcases hline : doc.line? n with _ | line
  · simp [wordAt, hline] at h
  obtain ⟨a, m, b, hrun⟩ := exists_touchedRun line column
  rw [wordAt_of_touchedRun hline hrun] at h
  split_ifs at h with hm
  exact ⟨line, a, m, b, rfl, hrun, hm, (Option.some.inj h).symm⟩

/-- Every column of a word, the one after its last character included, finds the word. -/
theorem wordAt_of_le (h : doc.wordAt ⟨n, column⟩ = some word)
    (hstart : word.range.start.character ≤ column')
    (hstop : column' ≤ word.range.stop.character) : doc.wordAt ⟨n, column'⟩ = some word := by
  obtain ⟨line, a, m, b, hline, hrun, hm, rfl⟩ := exists_touchedRun_of_wordAt h
  rw [wordAt_of_touchedRun hline (hrun.of_le hstart hstop), if_neg hm]

theorem start_le_stop_of_wordAt (h : doc.wordAt ⟨n, column⟩ = some word) :
    word.range.start.character ≤ word.range.stop.character := by
  obtain ⟨line, a, m, b, -, -, -, rfl⟩ := exists_touchedRun_of_wordAt h
  simp only [spanOf, utf16Length_append]
  omega

/-- Words that share a column, or meet at one, are the same. -/
theorem eq_or_apart_of_wordAt (h : doc.wordAt ⟨n, column⟩ = some word)
    (h' : doc.wordAt ⟨n, column'⟩ = some other) : word = other ∨ word.Apart other := by
  by_cases hapart : word.Apart other
  · exact .inr hapart
  -- the later of the two starts is a column of both words
  · have hle := start_le_stop_of_wordAt h
    have hle' := start_le_stop_of_wordAt h'
    simp only [Word.Apart, not_or, Nat.not_lt] at hapart
    obtain ⟨k, hk⟩ : ∃ k, k = max word.range.start.character other.range.start.character := ⟨_, rfl⟩
    have hword : doc.wordAt ⟨n, k⟩ = some word := wordAt_of_le h (by omega) (by omega)
    have hother : doc.wordAt ⟨n, k⟩ = some other := wordAt_of_le h' (by omega) (by omega)
    exact .inl (Option.some.inj (hword.symm.trans hother))

/-- On a line, with `c` the last column between characters at or before the cursor's: what is typed
runs from the start of the range to complete up to `c`, which the range holds; a word is found unless
that range is empty, then it has the range and begins with what is typed; and all columns of a word
find it alone. Past the last line there is no word, and the ranges are the position itself. -/
theorem words_tile (doc : Document) (pos : Position) :
    (∀ line, doc.line? pos.line = some line → ∃ c,
      IsGreatest {k | IsColumn line k ∧ k ≤ pos.character} c
        ∧ (doc.wordUntil pos).range = ⟨(doc.completionRange pos).start, ⟨pos.line, c⟩⟩
        ∧ (doc.wordUntil pos).StandsOn pos.line line
        ∧ (doc.completionRange pos).start.character ≤ c
        ∧ c ≤ (doc.completionRange pos).stop.character
        ∧ (doc.wordAt pos = none ↔ doc.completionRange pos = ⟨⟨pos.line, c⟩, ⟨pos.line, c⟩⟩)
        ∧ ∀ word, doc.wordAt pos = some word →
          word.range = doc.completionRange pos
            ∧ (doc.wordUntil pos).text.toList <+: word.text.toList
            ∧ word.StandsOn pos.line line
            ∧ (∀ column, word.range.start.character ≤ column →
              column ≤ word.range.stop.character → doc.wordAt ⟨pos.line, column⟩ = some word)
            ∧ ∀ column other, doc.wordAt ⟨pos.line, column⟩ = some other →
              word = other ∨ word.Apart other)
      ∧ (doc.line? pos.line = none →
        doc.wordAt pos = none ∧ doc.wordUntil pos = ⟨"", ⟨pos, pos⟩⟩
          ∧ doc.completionRange pos = ⟨pos, pos⟩) := by
  constructor
  · intro line hline
    obtain ⟨a, m, b, hrun⟩ := exists_touchedRun line pos.character
    obtain ⟨l, r, rfl, hcut, huntil⟩ := wordUntil_of_touchedRun hline hrun
    have hrange := completionRange_of_touchedRun hline hrun
    have hword := wordAt_of_touchedRun hline hrun
    have hline_eq : line = a ++ l ++ (r ++ b) := by simp only [hrun.line_eq, List.append_assoc]
    have hident : ∀ c ∈ l, isIdentChar c = true := fun c hc => hrun.ident c (List.mem_append_left r hc)
    rw [hrange, huntil, hword]
    refine ⟨utf16Length (a ++ l), hline_eq ▸ hcut.isGreatest, rfl,
      Word.standsOn_spanOf hline_eq hident, ?_, ?_, ?_, fun word hsome => ?_⟩
    · simp only [spanOf, utf16Length_append]
      omega
    · simp only [spanOf, utf16Length_append]
      omega
    · rw [hrun.spanOf_eq_empty_iff]
      split_ifs with hm
      · simp [hm]
      · simp [hm]
    · split_ifs at hsome with hm
      obtain rfl := Option.some.inj hsome
      have hat : doc.wordAt pos = some ⟨String.ofList (l ++ r), spanOf pos.line a (l ++ r)⟩ := by
        rw [hword, if_neg hm]
      refine ⟨rfl, ?_, Word.standsOn_spanOf hrun.line_eq hrun.ident, fun column => wordAt_of_le hat,
        fun column other => eq_or_apart_of_wordAt hat⟩
      rw [String.toList_ofList, String.toList_ofList]
      exact List.prefix_append l r
  · intro hline
    simp only [wordAt, wordUntil, completionRange, hline, and_self]

/-- A cursor inside a surrogate pair rests before it, at the end of a name; the next name begins a
character later. -/
theorem words_tile_pair :
    let doc := Document.ofText "u_x😀mix"
    let word : Word := ⟨"u_x", ⟨⟨0, 0⟩, ⟨0, 3⟩⟩⟩
    let other : Word := ⟨"mix", ⟨⟨0, 5⟩, ⟨0, 8⟩⟩⟩
    doc.line? 0 = some "u_x😀mix".toList ∧ doc.wordAt ⟨0, 4⟩ = some word
      ∧ doc.wordAt ⟨0, 8⟩ = some other
      ∧ doc.completionRange ⟨0, 4⟩ = word.range ∧ doc.wordAt ⟨0, 1⟩ = some word ∧ word.Apart other
      ∧ doc.line? 1 = none ∧ doc.completionRange ⟨1, 2⟩ = ⟨⟨1, 2⟩, ⟨1, 2⟩⟩ := by
  intro doc word other
  have hline : doc.line? 0 = some "u_x😀mix".toList := by decide
  have hword : doc.wordAt ⟨0, 4⟩ = some word := by decide
  have hother : doc.wordAt ⟨0, 8⟩ = some other := by decide
  obtain ⟨c, -, -, -, -, -, -, hfound⟩ := (words_tile doc ⟨0, 4⟩).1 _ hline
  obtain ⟨hrange, -, -, hsame, htiled⟩ := hfound word hword
  have hapart := (htiled 8 other hother).resolve_left (by decide)
  have hpast : doc.line? 1 = none := by decide
  exact ⟨hline, hword, hother, hrange.symm, hsame 1 (by decide) (by decide), hapart, hpast,
    ((words_tile doc ⟨1, 2⟩).2 hpast).2.2⟩

end Document

end GlslAssist
