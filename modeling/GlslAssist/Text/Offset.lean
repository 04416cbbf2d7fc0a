/-!
# Offsets and columns

A line of text is a list of characters. A place in it has two names: a byte offset into the UTF-8
form, and a column that counts UTF-16 code units, which is what editors send. `columnToByte` and
`byteToColumn` translate, always landing on a character boundary: a column inside a surrogate pair
goes down to its character, an offset inside a character goes up to its end.

`slice` cuts by byte offsets. Its laws are stated on a line written as `p ++ m ++ q`, where the
offsets are the lengths of `p` and of `p ++ m`.
-/

namespace GlslAssist.Text

/-- The UTF-16 code units of one character. -/
def units (c : Char) : Nat :=
  if c.toNat < 0x10000 then 1 else 2

def utf8Length : List Char → Nat
  | [] => 0
  | c :: s => c.utf8Size + utf8Length s

def utf16Length : List Char → Nat
  | [] => 0
  | c :: s => units c + utf16Length s

/-- The UTF-8 form. -/
def bytes (s : List Char) : List UInt8 :=
  s.flatMap String.utf8EncodeChar

/-- The offset lies between two characters of the line, or at one of its ends. -/
def IsBoundary (line : List Char) (offset : Nat) : Prop :=
  ∃ p q, line = p ++ q ∧ offset = utf8Length p

/-- The characters that end within the first `n` bytes. -/
def takeBytes : Nat → List Char → List Char
  | _, [] => []
  | n, c :: s => if c.utf8Size ≤ n then c :: takeBytes (n - c.utf8Size) s else []

/-- What `takeBytes` leaves. -/
def dropBytes : Nat → List Char → List Char
  | _, [] => []
  | n, c :: s => if c.utf8Size ≤ n then dropBytes (n - c.utf8Size) s else c :: s

/-- The characters between two byte offsets. -/
def slice (s : List Char) (start stop : Nat) : List Char :=
  takeBytes (stop - start) (dropBytes start s)

/-- The byte offset of a column. A column past the end is the end, and one between the halves of a
surrogate pair is the start of that character. -/
def columnToByte : List Char → Nat → Nat
  | [], _ => 0
  | c :: s, column =>
    if units c ≤ column then c.utf8Size + columnToByte s (column - units c) else 0

/-- The column of a byte offset: the units of every character that starts before it. -/
def byteToColumn : List Char → Nat → Nat
  | [], _ => 0
  | c :: s, offset =>
    if offset = 0 then 0 else units c + byteToColumn s (offset - c.utf8Size)

/-! ## Small laws -/

theorem units_pos (c : Char) : 0 < units c := by
  unfold units; split <;> decide

@[simp] theorem utf8Length_nil : utf8Length [] = 0 := rfl

@[simp] theorem utf8Length_cons (c : Char) (s : List Char) :
    utf8Length (c :: s) = c.utf8Size + utf8Length s := rfl

@[simp] theorem utf16Length_nil : utf16Length [] = 0 := rfl

@[simp] theorem utf16Length_cons (c : Char) (s : List Char) :
    utf16Length (c :: s) = units c + utf16Length s := rfl

@[simp] theorem utf8Length_append (p q : List Char) :
    utf8Length (p ++ q) = utf8Length p + utf8Length q := by
  induction p with
  | nil => simp
  | cons c p ih => simp [ih, Nat.add_assoc]

@[simp] theorem utf16Length_append (p q : List Char) :
    utf16Length (p ++ q) = utf16Length p + utf16Length q := by
  induction p with
  | nil => simp
  | cons c p ih => simp [ih, Nat.add_assoc]

theorem bytes_length (s : List Char) : (bytes s).length = utf8Length s := by
  induction s with
  | nil => rfl
  | cons c s ih =>
    simp only [bytes, List.flatMap_cons, List.length_append, utf8Length_cons] at ih ⊢
    rw [ih, String.length_utf8EncodeChar]

theorem dropBytes_append (p q : List Char) : dropBytes (utf8Length p) (p ++ q) = q := by
  induction p with
  | nil => cases q <;> simp [dropBytes, Nat.not_le.2 (Char.utf8Size_pos _)]
  | cons c p ih => simp [dropBytes, ih]

theorem takeBytes_append (p q : List Char) : takeBytes (utf8Length p) (p ++ q) = p := by
  induction p with
  | nil => cases q <;> simp [takeBytes, Nat.not_le.2 (Char.utf8Size_pos _)]
  | cons c p ih => simp [takeBytes, ih]

/-- Cutting a line at two boundaries gives the characters between them. -/
theorem slice_append (p m q : List Char) :
    slice (p ++ m ++ q) (utf8Length p) (utf8Length p + utf8Length m) = m := by
  rw [slice, List.append_assoc, dropBytes_append, Nat.add_sub_cancel_left, takeBytes_append]

theorem byteToColumn_append (p q : List Char) :
    byteToColumn (p ++ q) (utf8Length p) = utf16Length p := by
  induction p with
  | nil => cases q <;> simp [byteToColumn]
  | cons c p ih =>
    have : c.utf8Size + utf8Length p ≠ 0 := Nat.ne_of_gt (Nat.lt_add_right _ (Char.utf8Size_pos c))
    simp only [List.cons_append, utf8Length_cons, byteToColumn, utf16Length_cons, if_neg this,
      Nat.add_sub_cancel_left, ih]

end GlslAssist.Text
