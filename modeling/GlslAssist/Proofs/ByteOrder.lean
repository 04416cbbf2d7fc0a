import GlslAssist.Proofs.Bytes

/-!
# The order of bytes

Texts compared byte by byte in their UTF-8 form are in the order of their characters
(`bytes_le_bytes_iff`). A form is a first byte, which says how many follow, and further bytes of six
bits each (`exists_form`): a longer form begins with a larger byte, and forms of one length differ
first where their numbers do.
-/

namespace GlslAssist.Text

/-- A byte after the first, with the last six bits of a number. -/
def lastByte (v : Nat) : UInt8 :=
  UInt8.ofNat (v % 64 + 128)

/-- The last `6 * k` bits of a number. -/
def lastBytes : Nat → Nat → List UInt8
  | 0, _ => []
  | k + 1, v => lastBytes k (v / 64) ++ [lastByte v]

/-- What the last `6 * k` bits of a number leave. -/
def highBits : Nat → Nat → Nat
  | 0, v => v
  | k + 1, v => highBits k (v / 64)

/-- The least first byte of a form with `k` bytes after it. -/
def firstBase : Nat → Nat
  | 0 => 0
  | 1 => 192
  | 2 => 224
  | _ => 240

/-- How many first bytes there are for forms with `k` bytes after it. -/
def firstRoom : Nat → Nat
  | 0 => 128
  | 1 => 32
  | 2 => 16
  | _ => 8

theorem firstBase_add_firstRoom_le {j k : Nat} (hk : k < 4) (h : j < k) :
    firstBase j + firstRoom j ≤ firstBase k := by
  have hall : ∀ k < 4, ∀ j < k, firstBase j + firstRoom j ≤ firstBase k := by decide
  exact hall k hk j h

theorem firstBase_add_firstRoom_le_byte {k : Nat} (hk : k < 4) :
    firstBase k + firstRoom k ≤ UInt8.size := by
  have hall : ∀ k < 4, firstBase k + firstRoom k ≤ UInt8.size := by decide
  exact hall k hk

/-- The form of a character is the shortest that has room for its number. -/
theorem exists_form (c : Char) : ∃ k < 4,
    String.utf8EncodeChar c
        = UInt8.ofNat (highBits k c.toNat + firstBase k) :: lastBytes k c.toNat
      ∧ highBits k c.toNat < firstRoom k ∧ ∀ j < k, firstRoom j ≤ highBits j c.toNat := by
  have hmax : c.toNat.isValidChar := c.valid
  simp only [Nat.isValidChar] at hmax
  simp only [String.utf8EncodeChar, Char.toNat_val]
  generalize c.toNat = v at *
  split_ifs with h1 h2 h3
  · refine ⟨0, by decide, ?_, ?_, by simp⟩
    · simp [firstBase, highBits, lastBytes]
    · simp only [firstRoom, highBits]
      omega
  · refine ⟨1, by decide, ?_, ?_, fun j hj => ?_⟩
    · rw [Nat.mod_eq_of_lt (by omega : v / 64 < 32)]
      rfl
    · simp only [firstRoom, highBits]
      omega
    · obtain rfl : j = 0 := by omega
      simp only [firstRoom, highBits]
      omega
  · refine ⟨2, by decide, ?_, ?_, fun j hj => ?_⟩
    · rw [Nat.mod_eq_of_lt (by omega : v / 4096 < 16)]
      simp [firstBase, highBits, lastBytes, lastByte, Nat.div_div_eq_div_mul]
    · simp only [firstRoom, highBits]
      omega
    · obtain rfl | rfl : j = 0 ∨ j = 1 := by omega
      all_goals
        simp only [firstRoom, highBits]
        omega
  · refine ⟨3, by decide, ?_, ?_, fun j hj => ?_⟩
    · rw [Nat.mod_eq_of_lt (by omega : v / 262144 < 8)]
      simp [firstBase, highBits, lastBytes, lastByte, Nat.div_div_eq_div_mul]
    · simp only [firstRoom, highBits]
      omega
    · obtain rfl | rfl | rfl : j = 0 ∨ j = 1 ∨ j = 2 := by omega
      all_goals
        simp only [firstRoom, highBits]
        omega

theorem lastByte_lt {v w : Nat} (h : v % 64 < w % 64) : lastByte v < lastByte w := by
  simp only [lastByte, UInt8.lt_iff_toNat_lt, UInt8.toNat_ofNat']
  omega

theorem highBits_le : ∀ (k : Nat) {v w : Nat}, v ≤ w → highBits k v ≤ highBits k w
  | 0, _, _, h => h
  | k + 1, _, _, h => highBits_le k (Nat.div_le_div_right h)

theorem lastBytes_lt : ∀ (k : Nat) {v w : Nat} (s t : List UInt8), v < w →
    highBits k v = highBits k w → lastBytes k v ++ s < lastBytes k w ++ t
  | 0, v, w, s, t, h, heq => absurd heq (Nat.ne_of_lt h)
  | k + 1, v, w, s, t, h, heq => by
    rw [lastBytes, lastBytes, List.append_assoc, List.append_assoc]
    rcases Nat.lt_or_ge (v / 64) (w / 64) with hhigh | hhigh
    · exact lastBytes_lt k _ _ hhigh heq
    · have hsame : v / 64 = w / 64 := by omega
      rw [hsame]
      refine List.append_left_lt (List.cons_lt_cons_iff.2 (.inl (lastByte_lt ?_)))
      omega

theorem toNat_lt_toNat_iff {c d : Char} : c.toNat < d.toNat ↔ c < d :=
  UInt32.lt_iff_toNat_lt.symm

theorem encode_append_lt {c d : Char} (h : c < d) (s t : List UInt8) :
    String.utf8EncodeChar c ++ s < String.utf8EncodeChar d ++ t := by
  have hcd : c.toNat < d.toNat := toNat_lt_toNat_iff.2 h
  obtain ⟨j, hj, hc, hroom, hshortest⟩ := exists_form c
  obtain ⟨k, hk, hd, hroom', -⟩ := exists_form d
  have hbyte := firstBase_add_firstRoom_le_byte hj
  have hbyte' := firstBase_add_firstRoom_le_byte hk
  rw [hc, hd, List.cons_append, List.cons_append, List.cons_lt_cons_iff, UInt8.lt_iff_toNat_lt,
    UInt8.toNat_ofNat_of_lt' (by omega), UInt8.toNat_ofNat_of_lt' (by omega)]
  rcases Nat.lt_trichotomy j k with hjk | rfl | hkj
  · have hbase := firstBase_add_firstRoom_le hk hjk
    exact .inl (by omega)
  · rcases Nat.lt_or_eq_of_le (highBits_le j (Nat.le_of_lt hcd)) with hlt | heq
    · exact .inl (by omega)
    · exact .inr ⟨by rw [heq], lastBytes_lt j s t hcd heq⟩
  -- the number of `d` would have room where that of `c`, which is smaller, has none
  · have hnone := hshortest k hkj
    have hle := highBits_le k (Nat.le_of_lt hcd)
    omega

theorem append_lt_append_iff {xs ys zs : List UInt8} : xs ++ ys < xs ++ zs ↔ ys < zs := by
  induction xs with
  | nil => rfl
  | cons x xs ih => simp [ih]

theorem bytes_lt_bytes_iff : ∀ {s t : List Char}, bytes s < bytes t ↔ s < t
  | [], [] => by simp [bytes]
  | [], d :: t => by
    rcases he : String.utf8EncodeChar d with _ | ⟨b, bs⟩
    · exact absurd he String.utf8EncodeChar_ne_nil
    simp [he, bytes]
  | c :: s, [] => by simp [bytes]
  | c :: s, d :: t => by
    have ih : bytes s < bytes t ↔ s < t := bytes_lt_bytes_iff
    rw [bytes_cons, bytes_cons, List.cons_lt_cons_iff]
    rcases Nat.lt_trichotomy c.toNat d.toNat with hcd | hcd | hdc
    · have hcd : c < d := toNat_lt_toNat_iff.1 hcd
      exact iff_of_true (encode_append_lt hcd _ _) (.inl hcd)
    · obtain rfl := Char.toNat_inj.1 hcd
      simp only [append_lt_append_iff, ih, Char.lt_irrefl, true_and, false_or]
    · have hdc : d < c := toNat_lt_toNat_iff.1 hdc
      refine iff_of_false (List.lt_asymm (encode_append_lt hdc _ _)) ?_
      rintro (hcd | ⟨rfl, -⟩)
      · exact Char.lt_asymm hcd hdc
      · exact Char.lt_irrefl _ hdc

theorem bytes_le_bytes_iff {s t : String} : bytes s.toList ≤ bytes t.toList ↔ s ≤ t := by
  rw [← List.not_lt, bytes_lt_bytes_iff, ← String.lt_iff, String.not_lt]

end GlslAssist.Text
