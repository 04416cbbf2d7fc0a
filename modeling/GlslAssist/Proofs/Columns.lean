import GlslAssist.Proofs.Bytes

/-!
# Columns and cuts

A column names the end of an initial segment of its line (`columnToByte_eq`), and the column of
that segment's length leads back to it (`columnToByte_append`). Which segment it is, `CutAt` says:
the longest one that fits in the column (`columnToByte_eq_iff`). Cutting at such places is cutting
the list of characters.
-/

namespace GlslAssist.Text

theorem utf16Length_le (s : List Char) : utf16Length s ≤ utf8Length s := by
  induction s with
  | nil => exact Nat.le_refl 0
  | cons c s ih =>
    have hc : units c ≤ c.utf8Size := by
      unfold units
      split_ifs with h
      · exact Char.utf8Size_pos c
      · have h4 : c.utf8Size = 4 := by
          rw [Char.utf8Size_eq_four_iff, UInt32.lt_iff_toNat_lt]
          exact Nat.lt_of_succ_le (Nat.not_lt.1 h)
        omega
    simp only [utf16Length_cons, utf8Length_cons]
    omega

theorem units_of_ascii {c : Char} (h : IsAscii c) : units c = 1 :=
  if_pos (Nat.lt_trans h (by decide))

theorem utf16Length_of_ascii : ∀ {s : List Char}, (∀ c ∈ s, IsAscii c) → utf16Length s = s.length
  | [], _ => rfl
  | c :: s, h => by
    rw [utf16Length_cons, units_of_ascii (h c (by simp)),
      utf16Length_of_ascii fun d hd => h d (List.mem_cons_of_mem _ hd), List.length_cons,
      Nat.add_comm]

theorem utf8Length_eq_zero_iff {s : List Char} : utf8Length s = 0 ↔ s = [] := by
  rcases s with _ | ⟨c, s⟩
  · simp
  · have := Char.utf8Size_pos c
    simp only [utf8Length_cons, reduceCtorEq, iff_false]
    omega

/-- Wherever a column points, the line parts in two characters there. -/
theorem columnToByte_eq : ∀ (line : List Char) (column : Nat),
    ∃ p q, line = p ++ q ∧ columnToByte line column = utf8Length p
  | [], _ => ⟨[], [], rfl, rfl⟩
  | c :: s, column => by
    simp only [columnToByte]
    split_ifs with h
    · obtain ⟨p, q, rfl, hp⟩ := columnToByte_eq s (column - units c)
      exact ⟨c :: p, q, rfl, by rw [hp, utf8Length_cons]⟩
    · exact ⟨[], c :: s, rfl, rfl⟩

theorem columnToByte_append : ∀ (p q : List Char),
    columnToByte (p ++ q) (utf16Length p) = utf8Length p
  | [], [] => rfl
  | [], c :: q => if_neg (Nat.not_le.2 (units_pos c))
  | c :: p, q => by
    simp only [List.cons_append, columnToByte, utf16Length_cons, Nat.le_add_right, if_true,
      Nat.add_sub_cancel_left, utf8Length_cons]
    rw [columnToByte_append p q]

/-- A column parts a line after `p`: all of `p` ends at or before the column, and the first character
of the rest does not. -/
structure CutAt (column : Nat) (p q : List Char) : Prop where
  fits : utf16Length p ≤ column
  greatest : ∀ c ∈ q.head?, column < utf16Length p + units c

theorem columnToByte_eq_iff : ∀ {p q : List Char} {column : Nat},
    columnToByte (p ++ q) column = utf8Length p ↔ CutAt column p q
  | [], [], _ => ⟨fun _ => ⟨Nat.zero_le _, by simp⟩, fun _ => rfl⟩
  | [], c :: q, column => by
    have hc := Char.utf8Size_pos c
    rw [List.nil_append, columnToByte, utf8Length_nil]
    split_ifs with h
    · refine ⟨fun h0 => by omega, fun hcut => ?_⟩
      have := hcut.greatest c rfl
      simp only [utf16Length_nil] at this
      omega
    · refine ⟨fun _ => ⟨Nat.zero_le _, ?_⟩, fun _ => rfl⟩
      simp only [List.head?_cons, Option.mem_some_iff, forall_eq', utf16Length_nil]
      omega
  | c :: p, q, column => by
    have hc := Char.utf8Size_pos c
    have ih : columnToByte (p ++ q) (column - units c) = utf8Length p
        ↔ CutAt (column - units c) p q := columnToByte_eq_iff
    rw [List.cons_append, columnToByte, utf8Length_cons]
    split_ifs with h
    · rw [Nat.add_left_cancel_iff, ih]
      constructor
      · rintro ⟨hfits, hgreatest⟩
        refine ⟨by rw [utf16Length_cons]; omega, fun d hd => ?_⟩
        have := hgreatest d hd
        rw [utf16Length_cons]
        omega
      · rintro ⟨hfits, hgreatest⟩
        rw [utf16Length_cons] at hfits
        refine ⟨by omega, fun d hd => ?_⟩
        have := hgreatest d hd
        rw [utf16Length_cons] at this
        omega
    · refine ⟨fun h0 => by omega, fun hcut => ?_⟩
      have := hcut.fits
      rw [utf16Length_cons] at this
      omega

/-- Characters put in where a column cuts move the cut by their own columns. -/
theorem CutAt.insert {column : Nat} {p q : List Char} (h : CutAt column p q) (s : List Char) :
    CutAt (column + utf16Length s) (p ++ s) q := by
  refine ⟨?_, fun c hc => ?_⟩
  · have := h.fits
    rw [utf16Length_append]
    omega
  · have := h.greatest c hc
    rw [utf16Length_append]
    omega

@[simp] theorem dropBytes_zero : ∀ s : List Char, dropBytes 0 s = s
  | [] => rfl
  | c :: _ => if_neg (Nat.not_le.2 (Char.utf8Size_pos c))

theorem slice_zero_append (p q : List Char) : slice (p ++ q) 0 (utf8Length p) = p := by
  rw [slice, dropBytes_zero, Nat.sub_zero, takeBytes_append]

/-- The columns of its two ends cut a part out of its line. -/
theorem slice_columns (a m b : List Char) :
    slice (a ++ m ++ b) (columnToByte (a ++ m ++ b) (utf16Length a))
      (columnToByte (a ++ m ++ b) (utf16Length (a ++ m))) = m := by
  have hstart : columnToByte (a ++ m ++ b) (utf16Length a) = utf8Length a := by
    rw [List.append_assoc, columnToByte_append]
  rw [hstart, columnToByte_append, utf8Length_append, slice_append]

end GlslAssist.Text
