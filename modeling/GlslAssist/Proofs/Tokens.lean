import GlslAssist.Proofs.Words

/-!
# Tokens

The identifier run that touches a column is longest on both sides (`TouchedRun`); every line has one
for every column, perhaps empty (`exists_touchedRun`). The word at a position and the range that a
completion replaces are read off it, and so they are the same at all columns of the run
(`IsRun.touched`).
-/

namespace GlslAssist

open Text

/-- The identifier characters `m` between `a` and `b` are as many as stand there together. -/
structure IsRun (a m b : List Char) : Prop where
  ident : ∀ c ∈ m, isIdentChar c = true
  left : ∀ c ∈ a.getLast?, isIdentChar c = false
  right : ∀ c ∈ b.head?, isIdentChar c = false

/-- The run `m` touches the place where a column cuts the line. -/
structure TouchedRun (line : List Char) (column : Nat) (a m b : List Char) : Prop
    extends IsRun a m b where
  line_eq : line = a ++ m ++ b
  touches : ∃ l r, m = l ++ r ∧ CutAt column (a ++ l) (r ++ b)

theorem cutAt_utf16Length (p q : List Char) : CutAt (utf16Length p) p q :=
  columnToByte_eq_iff.1 (columnToByte_append p q)

namespace IsRun

variable {a m b l r : List Char}

theorem rdropWhile_left (h : IsRun a m b) : a.rdropWhile isIdentChar = a := by
  refine List.rdropWhile_eq_self_iff.2 fun hne => ?_
  rw [Bool.not_eq_true]
  exact h.left _ (List.getLast_mem_getLast? hne)

theorem dropWhile_right (h : IsRun a m b) : b.dropWhile isIdentChar = b := by
  rcases b with _ | ⟨c, b⟩
  · rfl
  · exact List.dropWhile_cons_of_neg (by rw [h.right c rfl]; decide)

/-- A cut within a run, or at an end of it, has the run around it. -/
theorem around (h : IsRun a (l ++ r) b) :
    (a ++ l).rdropWhile isIdentChar = a ∧ runAround (a ++ l) (r ++ b) = l ++ r := by
  have hl : ∀ c ∈ l, isIdentChar c = true := fun c hc => h.ident c (List.mem_append_left r hc)
  have hr : ∀ c ∈ r, isIdentChar c = true := fun c hc => h.ident c (List.mem_append_right l hc)
  have hdrop : (a ++ l).rdropWhile isIdentChar = a := by
    rw [List.rdropWhile, List.reverse_append, List.dropWhile_append_of_pos, ← List.rdropWhile,
      h.rdropWhile_left]
    exact fun c hc => hl c (List.mem_reverse.1 hc)
  have htake : (r ++ b).takeWhile isIdentChar = r := by
    have hsplit := List.takeWhile_append_dropWhile (p := isIdentChar) (l := r ++ b)
    rw [List.dropWhile_append_of_pos hr, h.dropWhile_right] at hsplit
    exact List.append_cancel_right hsplit
  have hrtake : (a ++ l).rtakeWhile isIdentChar = l := by
    have hsplit := List.rdropWhile_append_rtakeWhile (p := isIdentChar) (l := a ++ l)
    rw [hdrop] at hsplit
    exact List.append_cancel_left hsplit
  exact ⟨hdrop, by rw [runAround, htake, hrtake]⟩

theorem utf16Length_eq (h : IsRun a m b) : utf16Length m = m.length :=
  utf16Length_of_ascii fun c hc => ascii_of_isIdentChar (h.ident c hc)

/-- A run is touched by each of its columns. -/
theorem touched (h : IsRun a m b) {k : Nat} (hk : k ≤ m.length) :
    TouchedRun (a ++ m ++ b) (utf16Length a + k) a m b := by
  have hascii : ∀ c ∈ m.take k, IsAscii c := fun c hc =>
    ascii_of_isIdentChar (h.ident c (List.mem_of_mem_take hc))
  have hcolumn : utf16Length (a ++ m.take k) = utf16Length a + k := by
    rw [utf16Length_append, utf16Length_of_ascii hascii, List.length_take_of_le hk]
  exact ⟨h, rfl, m.take k, m.drop k, (List.take_append_drop k m).symm,
    hcolumn ▸ cutAt_utf16Length _ _⟩

end IsRun

theorem isRun_runAround (p q : List Char) :
    IsRun (p.rdropWhile isIdentChar) (runAround p q) (q.dropWhile isIdentChar) := by
  refine ⟨fun c hc => ?_, fun c hc => ?_, fun c hc => ?_⟩
  · rcases List.mem_append.1 hc with hc | hc
    · exact List.mem_rtakeWhile_imp hc
    · exact List.mem_takeWhile_imp hc
  · obtain ⟨hne, rfl⟩ := List.mem_getLast?_eq_getLast hc
    exact Bool.not_eq_true _ ▸ List.rdropWhile_last_not isIdentChar p hne
  · have hnot := List.head?_dropWhile_not isIdentChar q
    rw [Option.mem_def.1 hc] at hnot
    exact hnot

namespace TouchedRun

variable {line a m b : List Char} {column : Nat}

/-- The range of a run, taken back to byte offsets, cuts the run out of its line. -/
theorem slice_span (h : TouchedRun line column a m b) :
    slice line (columnToByte line (utf16Length a)) (columnToByte line (utf16Length (a ++ m)))
      = m := by
  rw [h.line_eq, slice_columns]

/-- Every column from the start of a run to its end touches it. -/
theorem of_le (h : TouchedRun line column a m b) {k : Nat} (hstart : utf16Length a ≤ k)
    (hstop : k ≤ utf16Length (a ++ m)) : TouchedRun line k a m b := by
  have htouched := h.toIsRun.touched (k := k - utf16Length a) ?_
  · rwa [Nat.add_sub_cancel' hstart, ← h.line_eq] at htouched
  · rw [utf16Length_append, h.utf16Length_eq] at hstop
    omega

end TouchedRun

theorem exists_touchedRun (line : List Char) (column : Nat) :
    ∃ a m b, TouchedRun line column a m b := by
  obtain ⟨p, q, rfl, hp⟩ := columnToByte_eq line column
  refine ⟨_, _, _, isRun_runAround p q, parts_eq p q, _, _, rfl, ?_⟩
  rw [List.rdropWhile_append_rtakeWhile, List.takeWhile_append_dropWhile]
  exact columnToByte_eq_iff.1 hp

namespace Document

variable {doc : Document} {n column : Nat} {line a m b : List Char}

theorem exists_partsAt_run (hline : doc.line? n = some line) (h : TouchedRun line column a m b) :
    ∃ p q, doc.PartsAt ⟨n, column⟩ p q ∧ p.rdropWhile isIdentChar = a ∧ runAround p q = m := by
  obtain ⟨l, r, rfl, hcut⟩ := h.touches
  have heq : line = a ++ l ++ (r ++ b) := by simp only [h.line_eq, List.append_assoc]
  exact ⟨a ++ l, r ++ b, ⟨heq ▸ hline, columnToByte_eq_iff.2 hcut⟩, h.around⟩

/-- What is typed of a run is the part of it before the cut. -/
theorem wordUntil_of_touchedRun (hline : doc.line? n = some line) (h : TouchedRun line column a m b) :
    ∃ l r, m = l ++ r ∧ CutAt column (a ++ l) (r ++ b)
      ∧ doc.wordUntil ⟨n, column⟩ = ⟨String.ofList l, spanOf n a l⟩ := by
  obtain ⟨l, r, rfl, hcut⟩ := h.touches
  have heq : line = a ++ l ++ (r ++ b) := by simp only [h.line_eq, List.append_assoc]
  have hparts : doc.PartsAt ⟨n, column⟩ (a ++ l) (r ++ b) :=
    ⟨heq ▸ hline, columnToByte_eq_iff.2 hcut⟩
  have hleft := h.around.1
  have htyped : (a ++ l).rtakeWhile isIdentChar = l := by
    have hsplit := List.rdropWhile_append_rtakeWhile (p := isIdentChar) (l := a ++ l)
    rw [hleft] at hsplit
    exact List.append_cancel_left hsplit
  refine ⟨l, r, rfl, hcut, ?_⟩
  rw [wordUntil_of_partsAt hparts, hleft, htyped]

theorem completionRange_of_touchedRun (hline : doc.line? n = some line)
    (h : TouchedRun line column a m b) : doc.completionRange ⟨n, column⟩ = spanOf n a m := by
  obtain ⟨p, q, hparts, ha, hm⟩ := exists_partsAt_run hline h
  rw [completionRange_of_partsAt hparts, ha, hm]

theorem wordAt_of_touchedRun (hline : doc.line? n = some line) (h : TouchedRun line column a m b) :
    doc.wordAt ⟨n, column⟩
      = if m = [] then none else some ⟨String.ofList m, spanOf n a m⟩ := by
  obtain ⟨p, q, hparts, ha, hm⟩ := exists_partsAt_run hline h
  rw [wordAt_of_partsAt hparts, ha, hm]

end Document

end GlslAssist
