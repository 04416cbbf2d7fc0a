import GlslAssist.Proofs.Columns

/-!
# Identifier runs of characters

At a place between two characters the byte-wise scans stop where the runs of identifier characters
on either side do (`identStart_append`, `identEnd_append`): what is left before the cursor is
`p.rdropWhile isIdentChar`, and after it `q.dropWhile isIdentChar`.
-/

namespace GlslAssist.Text

theorem ascii_of_isIdentChar {c : Char} (h : isIdentChar c = true) : IsAscii c := by
  have h : (decide (c.val ≥ 'A'.val ∧ c.val ≤ 'Z'.val) || (c.val ≥ 'a'.val && c.val ≤ 'z'.val)
      || (c.val ≥ '0'.val && c.val ≤ '9'.val) || c == '_') = true := h
  simp only [Bool.or_eq_true, Bool.and_eq_true, decide_eq_true_eq, beq_iff_eq,
    UInt32.le_iff_toNat_le, ge_iff_le] at h
  rcases h with ((⟨-, h⟩ | ⟨-, h⟩) | ⟨-, h⟩) | rfl
  · exact Nat.lt_of_le_of_lt h (by decide)
  · exact Nat.lt_of_le_of_lt h (by decide)
  · exact Nat.lt_of_le_of_lt h (by decide)
  · decide

theorem isIdentByte_ofNat {c : Char} (h : IsAscii c) :
    isIdentByte (UInt8.ofNat c.toNat) = isIdentChar c := by
  have hall : ∀ n < 128, isIdentByte (UInt8.ofNat n) = isIdentChar (Char.ofNat n) := by decide
  rw [hall _ h, Char.ofNat_toNat]

theorem isIdentByte_of_mem_encode {c : Char} {b : UInt8} (hb : b ∈ String.utf8EncodeChar c) :
    isIdentByte b = isIdentChar c := by
  by_cases hc : IsAscii c
  · rw [encode_of_ascii hc, List.mem_singleton] at hb
    rw [hb, isIdentByte_ofNat hc]
  · have hle := not_ascii_of_mem_encode hc hb
    have hchar : isIdentChar c = false := by
      rw [← Bool.not_eq_true]
      exact fun h => hc (ascii_of_isIdentChar h)
    rw [hchar]
    simp only [isIdentByte, UInt8.le_iff_toNat_le, UInt8.reduceToNat, ← Bool.not_eq_true,
      Bool.or_eq_true, Bool.and_eq_true, decide_eq_true_eq, beq_iff_eq]
    rintro (((⟨-, h⟩ | ⟨-, h⟩) | rfl) | ⟨-, h⟩)
    · omega
    · omega
    · exact absurd hle (by decide)
    · omega

theorem length_takeWhile_bytes : ∀ q : List Char,
    ((bytes q).takeWhile isIdentByte).length = utf8Length (q.takeWhile isIdentChar)
  | [] => rfl
  | c :: q => by
    have ih := length_takeWhile_bytes q
    rw [bytes_cons, List.takeWhile_cons]
    rcases hc : isIdentChar c with _ | _
    · rcases he : String.utf8EncodeChar c with _ | ⟨b, bs⟩
      · exact absurd he String.utf8EncodeChar_ne_nil
      have hb := isIdentByte_of_mem_encode (c := c) (b := b) (by simp [he])
      simp [hb, hc]
    · have ha := ascii_of_isIdentChar hc
      rw [encode_of_ascii ha, List.singleton_append, List.takeWhile_cons, isIdentByte_ofNat ha, hc]
      simp only [if_true, List.length_cons, utf8Length_cons, utf8Size_of_ascii ha, ih]
      omega

theorem length_takeWhile_reverse_bytes (p : List Char) :
    ((bytes p).reverse.takeWhile isIdentByte).length = utf8Length (p.rtakeWhile isIdentChar) := by
  induction p using List.reverseRecOn with
  | nil => rfl
  | append_singleton p c ih =>
    rw [bytes_append, List.reverse_append, show bytes [c] = String.utf8EncodeChar c by simp [bytes]]
    rcases hc : isIdentChar c with _ | _
    · rcases he : (String.utf8EncodeChar c).reverse with _ | ⟨b, bs⟩
      · exact absurd (List.reverse_eq_nil_iff.1 he) String.utf8EncodeChar_ne_nil
      have hb := isIdentByte_of_mem_encode (c := c) (b := b)
        (List.mem_reverse.1 (he ▸ List.mem_cons_self))
      rw [List.rtakeWhile_concat_neg _ _ _ (by simp [hc])]
      simp [hb, hc]
    · have ha := ascii_of_isIdentChar hc
      rw [encode_of_ascii ha, List.rtakeWhile_concat_pos _ _ _ hc, List.reverse_singleton,
        List.singleton_append, List.takeWhile_cons, isIdentByte_ofNat ha, hc, if_pos rfl,
        List.length_cons, ih, utf8Length_append, utf8Length_cons, utf8Size_of_ascii ha]
      rfl

theorem utf8Length_rdropWhile (p : List Char) :
    utf8Length (p.rdropWhile isIdentChar) + utf8Length (p.rtakeWhile isIdentChar)
      = utf8Length p := by
  rw [← utf8Length_append, List.rdropWhile_append_rtakeWhile]

theorem identStart_append (p q : List Char) :
    identStart (p ++ q) (utf8Length p) = utf8Length (p.rdropWhile isIdentChar) := by
  have hle : utf8Length p ≤ utf8Length (p ++ q) := by simp
  simp only [identStart, Nat.min_eq_left hle, bytes_take, length_takeWhile_reverse_bytes]
  have := utf8Length_rdropWhile p
  omega

theorem identEnd_append (p q : List Char) :
    identEnd (p ++ q) (utf8Length p) = utf8Length (p ++ q.takeWhile isIdentChar) := by
  have hle : utf8Length p ≤ utf8Length (p ++ q) := by simp
  simp only [identEnd, Nat.min_eq_left hle, bytes_drop, length_takeWhile_bytes]
  rw [utf8Length_append]

end GlslAssist.Text
