import GlslAssist.Text.Identifier
import Mathlib.Data.List.DropRight

/-!
# Bytes of a line

An ASCII character is one byte, its own code; of any other character no byte is ASCII
(`not_ascii_of_mem_encode`). So a scan for ASCII bytes sees the ASCII characters of the line and
passes over the others, and every place it stops at lies between two characters.
-/

namespace GlslAssist.Text

theorem bytes_cons (c : Char) (s : List Char) :
    bytes (c :: s) = String.utf8EncodeChar c ++ bytes s := by
  simp [bytes]

theorem bytes_append (p q : List Char) : bytes (p ++ q) = bytes p ++ bytes q := by
  simp [bytes]

theorem bytes_take (p q : List Char) : (bytes (p ++ q)).take (utf8Length p) = bytes p := by
  rw [bytes_append, ← bytes_length, List.take_left]

theorem bytes_drop (p q : List Char) : (bytes (p ++ q)).drop (utf8Length p) = bytes q := by
  rw [bytes_append, ← bytes_length, List.drop_left]

/-- The UTF-8 form of a text is what the text is stored as. -/
theorem bytes_toList (s : String) : bytes s.toList = s.toByteArray.data.toList := by
  rw [← String.utf8Encode_toList, List.utf8Encode]
  simp [bytes]

theorem utf8Length_eq_utf8ByteSize (s : List Char) :
    utf8Length s = (String.ofList s).utf8ByteSize := by
  induction s with
  | nil => rfl
  | cons c s ih =>
    rw [show c :: s = [c] ++ s from rfl, String.ofList_append, String.utf8ByteSize_append, ← ih,
      ← String.singleton_eq_ofList, String.utf8ByteSize_singleton]
    simp

/-- The character is one byte. -/
def IsAscii (c : Char) : Prop :=
  c.toNat < 128

instance (c : Char) : Decidable (IsAscii c) :=
  inferInstanceAs (Decidable (c.toNat < 128))

theorem encode_of_ascii {c : Char} (h : IsAscii c) :
    String.utf8EncodeChar c = [UInt8.ofNat c.toNat] := by
  have hc : c.val.toNat ≤ 0x7f := Nat.le_of_lt_succ h
  simp only [String.utf8EncodeChar, if_pos hc]
  rfl

theorem utf8Size_of_ascii {c : Char} (h : IsAscii c) : c.utf8Size = 1 := by
  rw [← String.length_utf8EncodeChar, encode_of_ascii h]
  rfl

theorem not_ascii_of_mem_encode {c : Char} (h : ¬ IsAscii c) {b : UInt8}
    (hb : b ∈ String.utf8EncodeChar c) : 128 ≤ b.toNat := by
  have hc : ¬ c.val.toNat ≤ 0x7f := fun hle => h (Nat.lt_succ_of_le hle)
  simp only [String.utf8EncodeChar, if_neg hc] at hb
  split_ifs at hb <;>
    simp only [List.mem_cons, List.not_mem_nil, or_false] at hb <;>
    rcases hb with rfl | rfl | rfl | rfl <;>
    · simp only [UInt8.toNat_ofNat']
      omega

/-- Where an ASCII byte stands, its character does. -/
theorem eq_toUInt8_iff {c d : Char} (hd : IsAscii d) {b : UInt8}
    (hb : b ∈ String.utf8EncodeChar c) : b = d.toUInt8 ↔ c = d := by
  have hsmall : d.toUInt8.toNat = d.toNat :=
    UInt8.toNat_ofNat_of_lt' (Nat.lt_trans hd (by decide))
  by_cases hc : IsAscii c
  · rw [encode_of_ascii hc, List.mem_singleton] at hb
    rw [hb, ← UInt8.toNat_inj, hsmall, UInt8.toNat_ofNat_of_lt' (Nat.lt_trans hc (by decide)),
      Char.toNat_inj]
  · have hlarge := not_ascii_of_mem_encode hc hb
    constructor
    · rintro rfl
      exact absurd hd (Nat.not_lt.2 (hsmall ▸ hlarge))
    · rintro rfl
      exact absurd hd hc

end GlslAssist.Text
