import GlslAssist.Proofs.Columns
import Mathlib.Order.Bounds.Basic
import Mathlib.Order.Monotone.Defs

/-!
# Rounding between columns and offsets

A column goes down to the last character boundary that it reaches, and an offset inside a character
goes up to the end of that character. So a boundary is its own offset when it is taken to its column
and back, and a column comes back as itself unless it lies past the line or between the two units of
a character (`conversions_round`).

The initial segments of a line are ordered by length, in bytes as in units. `CutAt` and `CoverAt` say
at which of them a column and an offset come to rest.
-/

namespace GlslAssist.Text

/-- The column lies between the two units of a character. -/
def InsideSurrogatePair (line : List Char) (column : Nat) : Prop :=
  ∃ p c q, line = p ++ c :: q ∧ units c = 2 ∧ column = utf16Length p + 1

theorem units_le_two (c : Char) : units c ≤ 2 := by
  unfold units
  split_ifs <;> decide

theorem utf8Length_le_of_isPrefix {p line : List Char} (h : p <+: line) :
    utf8Length p ≤ utf8Length line := by
  obtain ⟨q, rfl⟩ := h
  rw [utf8Length_append]
  exact Nat.le_add_right _ _

theorem utf16Length_le_of_isPrefix {p line : List Char} (h : p <+: line) :
    utf16Length p ≤ utf16Length line := by
  obtain ⟨q, rfl⟩ := h
  rw [utf16Length_append]
  exact Nat.le_add_right _ _

theorem utf8Length_lt_of_isPrefix {p line : List Char} (h : p <+: line) (hne : p ≠ line) :
    utf8Length p < utf8Length line := by
  obtain ⟨q, rfl⟩ := h
  have hq : utf8Length q ≠ 0 := by
    rw [Ne, utf8Length_eq_zero_iff]
    rintro rfl
    exact hne (List.append_nil p).symm
  rw [utf8Length_append]
  omega

/-- Of two boundaries of a line, the one further on has the longer initial segment before it. -/
theorem isPrefix_of_utf8Length_le {p t line : List Char} (hp : p <+: line) (ht : t <+: line)
    (hle : utf8Length p ≤ utf8Length t) : p <+: t := by
  rcases List.prefix_or_prefix_of_prefix hp ht with h | h
  · exact h
  · by_cases heq : t = p
    · exact heq ▸ List.prefix_refl t
    · exact absurd (utf8Length_lt_of_isPrefix h heq) (Nat.not_lt.2 hle)

theorem isBoundary_iff {line : List Char} {b : Nat} :
    IsBoundary line b ↔ ∃ p, p <+: line ∧ b = utf8Length p := by
  constructor
  · rintro ⟨p, q, rfl, rfl⟩
    exact ⟨p, List.prefix_append p q, rfl⟩
  · rintro ⟨p, ⟨q, rfl⟩, rfl⟩
    exact ⟨p, q, rfl, rfl⟩

theorem slice_of_isPrefix {p line : List Char} (h : p <+: line) :
    slice line 0 (utf8Length p) = p := by
  obtain ⟨q, rfl⟩ := h
  exact slice_zero_append p q

/-! ## Columns go down, offsets go up -/

theorem CutAt.isPrefix_of_le {column : Nat} {p q t : List Char} (h : CutAt column p q)
    (ht : t <+: p ++ q) (hle : utf16Length t ≤ column) : t <+: p := by
  rcases List.prefix_or_prefix_of_prefix ht (List.prefix_append p q) with htp | ⟨r, rfl⟩
  · exact htp
  -- a segment that goes on past `p` has the first character of `q`, which the column does not reach
  · rcases r with _ | ⟨c, r⟩
    · simp
    · obtain ⟨s, rfl⟩ := (List.prefix_append_right_inj p).1 ht
      have hgreatest := h.greatest c rfl
      rw [utf16Length_append, utf16Length_cons] at hle
      omega

theorem columnToByte_isGreatest (line : List Char) (column : Nat) :
    IsGreatest {b | IsBoundary line b ∧ utf16Length (slice line 0 b) ≤ column}
      (columnToByte line column) := by
  obtain ⟨p, q, rfl, hp⟩ := columnToByte_eq line column
  have hcut := columnToByte_eq_iff.1 hp
  rw [hp]
  refine ⟨⟨⟨p, q, rfl, rfl⟩, ?_⟩, ?_⟩
  · rw [slice_zero_append]
    exact hcut.fits
  · rintro b ⟨hb, hle⟩
    obtain ⟨t, ht, rfl⟩ := isBoundary_iff.1 hb
    rw [slice_of_isPrefix ht] at hle
    exact utf8Length_le_of_isPrefix (hcut.isPrefix_of_le ht hle)

theorem columnToByte_monotone (line : List Char) : Monotone (columnToByte line) := by
  intro column column' hle
  refine (columnToByte_isGreatest line column).mono (columnToByte_isGreatest line column') ?_
  rintro b ⟨hb, hcolumn⟩
  exact ⟨hb, hcolumn.trans hle⟩

/-- An offset comes to rest after `p`: every character of `p` begins before it, and if anything is
left of the line then `p` reaches it. -/
structure CoverAt (offset : Nat) (p q : List Char) : Prop where
  needed : ∀ t, t <+: p → t ≠ p → utf8Length t < offset
  reaches : q ≠ [] → offset ≤ utf8Length p

theorem byteToColumn_eq : ∀ (line : List Char) (offset : Nat),
    ∃ p q, line = p ++ q ∧ CoverAt offset p q ∧ byteToColumn line offset = utf16Length p
  | [], offset => by
    refine ⟨[], [], rfl, ⟨fun t ht hne => ?_, fun h => absurd rfl h⟩, rfl⟩
    exact absurd (List.prefix_nil.1 ht) hne
  | c :: s, offset => by
    rw [byteToColumn]
    split_ifs with h
    · refine ⟨[], c :: s, rfl, ⟨fun t ht hne => ?_, fun _ => Nat.le_of_eq h⟩, rfl⟩
      exact absurd (List.prefix_nil.1 ht) hne
    · obtain ⟨p, q, rfl, ⟨hneeded, hreaches⟩, hp⟩ := byteToColumn_eq s (offset - c.utf8Size)
      refine ⟨c :: p, q, rfl, ⟨fun t ht hne => ?_, fun hq => ?_⟩, by rw [hp, utf16Length_cons]⟩
      · rcases t with _ | ⟨d, t⟩
        · exact Nat.pos_of_ne_zero h
        · obtain ⟨rfl, htp⟩ := List.cons_prefix_cons.1 ht
          have hlt := hneeded t htp (fun heq => hne (by rw [heq]))
          rw [utf8Length_cons]
          omega
      · have hle := hreaches hq
        rw [utf8Length_cons]
        omega

theorem CoverAt.isLeast {offset : Nat} {p q : List Char} (h : CoverAt offset p q) :
    IsLeast {b | IsBoundary (p ++ q) b ∧ min offset (utf8Length (p ++ q)) ≤ b} (utf8Length p) := by
  have hp : p <+: p ++ q := List.prefix_append p q
  refine ⟨⟨⟨p, q, rfl, rfl⟩, ?_⟩, ?_⟩
  · by_cases hq : q = []
    · rw [hq, List.append_nil]
      exact Nat.min_le_right _ _
    · exact (Nat.min_le_left _ _).trans (h.reaches hq)
  · rintro b ⟨hb, hle⟩
    obtain ⟨t, ht, rfl⟩ := isBoundary_iff.1 hb
    rcases List.prefix_or_prefix_of_prefix hp ht with hpt | htp
    · exact utf8Length_le_of_isPrefix hpt
    · by_cases heq : t = p
      · rw [heq]
      · have hoffset := h.needed t htp heq
        have hlt := utf8Length_lt_of_isPrefix htp heq
        have hline := utf8Length_le_of_isPrefix hp
        omega

/-- The boundary that an offset goes up to, and its column. -/
theorem exists_byteToColumn (line : List Char) (offset : Nat) :
    ∃ b, IsLeast {b | IsBoundary line b ∧ min offset (utf8Length line) ≤ b} b
      ∧ byteToColumn line offset = utf16Length (slice line 0 b)
      ∧ columnToByte line (byteToColumn line offset) = b := by
  obtain ⟨p, q, rfl, hcover, hp⟩ := byteToColumn_eq line offset
  refine ⟨utf8Length p, hcover.isLeast, ?_, ?_⟩
  · rw [hp, slice_zero_append]
  · rw [hp, columnToByte_append]

theorem byteToColumn_monotone (line : List Char) : Monotone (byteToColumn line) := by
  intro offset offset' hle
  obtain ⟨b, hleast, hb, -⟩ := exists_byteToColumn line offset
  obtain ⟨b', hleast', hb', -⟩ := exists_byteToColumn line offset'
  have hmin := hleast'.1.2
  have hbb : b ≤ b' := hleast.2 ⟨hleast'.1.1, by omega⟩
  obtain ⟨p, hp, rfl⟩ := isBoundary_iff.1 hleast.1.1
  obtain ⟨t, ht, rfl⟩ := isBoundary_iff.1 hleast'.1.1
  rw [hb, hb', slice_of_isPrefix hp, slice_of_isPrefix ht]
  exact utf16Length_le_of_isPrefix (isPrefix_of_utf8Length_le hp ht hbb)

/-! ## There and back -/

/-- The column lies between two characters of the line, or at one of its ends. -/
def IsColumn (line : List Char) (column : Nat) : Prop :=
  ∃ p, p <+: line ∧ utf16Length p = column

/-- A cut comes to rest at the last column between characters that it reaches. -/
theorem CutAt.isGreatest {column : Nat} {p q : List Char} (h : CutAt column p q) :
    IsGreatest {k | IsColumn (p ++ q) k ∧ k ≤ column} (utf16Length p) := by
  refine ⟨⟨⟨p, List.prefix_append p q, rfl⟩, h.fits⟩, ?_⟩
  rintro k ⟨⟨t, ht, rfl⟩, hle⟩
  exact utf16Length_le_of_isPrefix (h.isPrefix_of_le ht hle)

theorem columnToByte_byteToColumn {line : List Char} {b : Nat} (h : IsBoundary line b) :
    columnToByte line (byteToColumn line b) = b := by
  obtain ⟨p, q, rfl, rfl⟩ := h
  rw [byteToColumn_append, columnToByte_append]

/-- A column that cuts after `p` cuts exactly there unless it lies past the line or inside a
character. -/
theorem CutAt.utf16Length_eq_iff {column : Nat} {p q : List Char} (h : CutAt column p q) :
    utf16Length p = column
      ↔ column ≤ utf16Length (p ++ q) ∧ ¬ InsideSurrogatePair (p ++ q) column := by
  have hfits := h.fits
  constructor
  · rintro rfl
    refine ⟨utf16Length_le_of_isPrefix (List.prefix_append p q), ?_⟩
    rintro ⟨t, c, s, hline, hc, hcolumn⟩
    have ht : t <+: p ++ q := ⟨c :: s, hline.symm⟩
    obtain ⟨r, rfl⟩ := h.isPrefix_of_le ht (by omega)
    rw [List.append_assoc, List.append_cancel_left_eq] at hline
    rw [utf16Length_append] at hcolumn
    rcases r with _ | ⟨d, r⟩
    · simp at hcolumn
    · obtain ⟨rfl, -⟩ := List.cons.inj hline
      rw [utf16Length_cons] at hcolumn
      omega
  · rintro ⟨hle, hinside⟩
    rcases q with _ | ⟨c, q⟩
    · rw [List.append_nil] at hle
      omega
    · have hgreatest := h.greatest c rfl
      have hunits := units_le_two c
      by_contra hne
      exact hinside ⟨p, c, q, rfl, by omega, by omega⟩

theorem byteToColumn_columnToByte_le (line : List Char) (column : Nat) :
    byteToColumn line (columnToByte line column) ≤ column
      ∧ (byteToColumn line (columnToByte line column) = column
        ↔ column ≤ utf16Length line ∧ ¬ InsideSurrogatePair line column) := by
  obtain ⟨p, q, rfl, hp⟩ := columnToByte_eq line column
  have hcut := columnToByte_eq_iff.1 hp
  rw [hp, byteToColumn_append]
  exact ⟨hcut.fits, hcut.utf16Length_eq_iff⟩

/-- A column is taken to the greatest boundary that it reaches, an offset to the column of the least
boundary that is not before it, and each undoes the other but for this rounding. -/
theorem conversions_round (line : List Char) :
    (∀ column, IsGreatest {b | IsBoundary line b ∧ utf16Length (slice line 0 b) ≤ column}
        (columnToByte line column))
      ∧ (∀ offset, ∃ b, IsLeast {b | IsBoundary line b ∧ min offset (utf8Length line) ≤ b} b
        ∧ byteToColumn line offset = utf16Length (slice line 0 b)
        ∧ columnToByte line (byteToColumn line offset) = b)
      ∧ (∀ b, IsBoundary line b → columnToByte line (byteToColumn line b) = b)
      ∧ (∀ column, byteToColumn line (columnToByte line column) ≤ column
        ∧ (byteToColumn line (columnToByte line column) = column
          ↔ column ≤ utf16Length line ∧ ¬ InsideSurrogatePair line column))
      ∧ Monotone (columnToByte line) ∧ Monotone (byteToColumn line) :=
  ⟨columnToByte_isGreatest line, exists_byteToColumn line,
    fun _ => columnToByte_byteToColumn, byteToColumn_columnToByte_le line,
    columnToByte_monotone line, byteToColumn_monotone line⟩

/-- In a line with characters of one, two and four bytes, the boundary before the last comes back,
and the column inside that character does not. -/
theorem conversions_round_pair :
    let line := "aé😀".toList
    IsBoundary line 3 ∧ columnToByte line (byteToColumn line 3) = 3
      ∧ InsideSurrogatePair line 3 ∧ byteToColumn line (columnToByte line 3) ≠ 3 := by
  intro line
  have hb : IsBoundary line 3 := ⟨"aé".toList, "😀".toList, rfl, rfl⟩
  have hpair : InsideSurrogatePair line 3 := ⟨"aé".toList, '😀', [], rfl, rfl, rfl⟩
  obtain ⟨-, -, hback, hcolumn, -, -⟩ := conversions_round line
  exact ⟨hb, hback 3 hb, hpair, fun h => ((hcolumn 3).2.1 h).2 hpair⟩

end GlslAssist.Text
