import GlslAssist.Decimal.Digits
import GlslAssist.Proofs.IdentifierRuns

/-!
# Text functions with every step checked

The functions of a line are computed here as a machine does it, one byte or one character at a
time, and with everything checked that could go wrong on the way: that an index is within its table,
that a text is cut between two of its characters, that no addition leaves a word of 32 bits and no
subtraction goes below zero. Wherever the text is short enough for its length to be such a word, no
check fails and the result is that of the function (`columnToByte_eq` and the like below).
-/

namespace GlslAssist

open Text Decimal

/-- What stops a computation whose steps are checked. -/
inductive Fault where
  | index
  | cut
  | underflow
  | overflow
  deriving DecidableEq, Repr

abbrev Checked := Except Fault

namespace Text

theorem isBoundary_cons {c : Char} {s : List Char} {n : Nat} :
    IsBoundary (c :: s) n ↔ n = 0 ∨ c.utf8Size ≤ n ∧ IsBoundary s (n - c.utf8Size) := by
  constructor
  · rintro ⟨_ | ⟨d, p⟩, q, h, rfl⟩
    · exact Or.inl rfl
    · rw [List.cons_append, List.cons.injEq] at h
      obtain ⟨rfl, rfl⟩ := h
      refine Or.inr ⟨Nat.le_add_right _ _, p, q, rfl, ?_⟩
      rw [utf8Length_cons, Nat.add_sub_cancel_left]
  · rintro (rfl | ⟨hle, p, q, rfl, hp⟩)
    · exact ⟨[], c :: s, rfl, rfl⟩
    · refine ⟨c :: p, q, rfl, ?_⟩
      rw [utf8Length_cons]
      omega

theorem isBoundary_nil {n : Nat} : IsBoundary [] n ↔ n = 0 := by
  constructor
  · rintro ⟨p, q, h, rfl⟩
    rw [(List.append_eq_nil_iff.1 h.symm).1, utf8Length_nil]
  · rintro rfl
    exact ⟨[], [], rfl, rfl⟩

instance decidableIsBoundary : ∀ (s : List Char) (n : Nat), Decidable (IsBoundary s n)
  | [], _ => decidable_of_iff _ isBoundary_nil.symm
  | c :: s, n =>
    have := decidableIsBoundary s (n - c.utf8Size)
    decidable_of_iff _ isBoundary_cons.symm

theorem isBoundary_append (p q : List Char) : IsBoundary (p ++ q) (utf8Length p) :=
  ⟨p, q, rfl, rfl⟩

end Text

namespace Checked

def add (a b : Nat) : Checked Nat :=
  if a + b < wordLimit then pure (a + b) else throw .overflow

def sub (a b : Nat) : Checked Nat :=
  if b ≤ a then pure (a - b) else throw .underflow

/-- The number as a word of 32 bits. -/
def narrow (n : Nat) : Checked Nat :=
  if n < wordLimit then pure n else throw .overflow

def entry {α : Type} (table : List α) (i : Nat) : Checked α :=
  match table[i]? with
  | some x => pure x
  | none => throw .index

def cut (s : List Char) (start stop : Nat) : Checked (List Char) :=
  if start ≤ stop ∧ IsBoundary s start ∧ IsBoundary s stop then pure (slice s start stop)
  else throw .cut

theorem add_eq {a b : Nat} (h : a + b < wordLimit) : add a b = pure (a + b) :=
  if_pos h

theorem sub_eq {a b : Nat} (h : b ≤ a) : sub a b = pure (a - b) :=
  if_pos h

theorem narrow_eq {n : Nat} (h : n < wordLimit) : narrow n = pure n :=
  if_pos h

theorem entry_eq {α : Type} {table : List α} {i : Nat} {x : α} (h : table[i]? = some x) :
    entry table i = pure x := by
  rw [entry, h]

theorem cut_append (p m q : List Char) :
    cut (p ++ m ++ q) (utf8Length p) (utf8Length (p ++ m)) = pure m := by
  have hle : utf8Length p ≤ utf8Length (p ++ m) := by simp
  have hstart : IsBoundary (p ++ m ++ q) (utf8Length p) := by
    rw [List.append_assoc]
    exact isBoundary_append p (m ++ q)
  rw [cut, if_pos ⟨hle, hstart, isBoundary_append (p ++ m) q⟩, utf8Length_append, slice_append]

example : cut "é(".toList 1 2 = throw .cut := by decide

/-! ## Columns -/

/-- Reads characters on until the units exceed the column; `i` is the offset reached. -/
def columnToByteFrom : List Char → Nat → Nat → Nat → Checked Nat
  | [], i, _, _ => pure i
  | c :: s, i, count, column => do
    let next ← add count (units c)
    if column < next then pure i else columnToByteFrom s (i + c.utf8Size) next column

def columnToByte (line : List Char) (column : Nat) : Checked Nat :=
  columnToByteFrom line 0 0 column

/-- Adds up the units of the characters that begin before the offset. -/
def byteToColumnFrom : List Char → Nat → Nat → Nat → Checked Nat
  | [], _, count, _ => pure count
  | c :: s, i, count, offset =>
    if i < offset then do
      let next ← add count (units c)
      byteToColumnFrom s (i + c.utf8Size) next offset
    else pure count

def byteToColumn (line : List Char) (offset : Nat) : Checked Nat :=
  byteToColumnFrom line 0 0 (min offset (utf8Length line))

theorem columnToByteFrom_eq : ∀ (s : List Char) (i count column : Nat), count ≤ column →
    count + utf16Length s < wordLimit →
      columnToByteFrom s i count column = pure (i + Text.columnToByte s (column - count))
  | [], i, count, column, _, _ => rfl
  | c :: s, i, count, column, hle, hlt => by
    rw [utf16Length_cons] at hlt
    rw [columnToByteFrom, add_eq (by omega), pure_bind, Text.columnToByte]
    by_cases hc : units c ≤ column - count
    · rw [if_neg (by omega), if_pos hc, columnToByteFrom_eq s _ _ _ (by omega) (by omega),
        Nat.sub_sub, Nat.add_assoc]
    · rw [if_pos (by omega), if_neg hc, Nat.add_zero]

theorem columnToByte_eq {line : List Char} (h : utf8Length line < wordLimit) (column : Nat) :
    columnToByte line column = pure (Text.columnToByte line column) := by
  have hlt := utf16Length_le line
  rw [columnToByte, columnToByteFrom_eq line 0 0 column (by omega) (by omega), Nat.zero_add,
    Nat.sub_zero]

theorem byteToColumnFrom_eq : ∀ (s : List Char) (i count offset : Nat),
    count + utf16Length s < wordLimit →
      byteToColumnFrom s i count offset = pure (count + Text.byteToColumn s (offset - i))
  | [], i, count, offset, _ => rfl
  | c :: s, i, count, offset, hlt => by
    rw [utf16Length_cons] at hlt
    rw [byteToColumnFrom, Text.byteToColumn]
    by_cases hi : i < offset
    · rw [if_pos hi, if_neg (by omega), add_eq (by omega), pure_bind,
        byteToColumnFrom_eq s _ _ _ (by omega), Nat.sub_sub, Nat.add_assoc]
    · rw [if_neg hi, if_pos (by omega), Nat.add_zero]

theorem byteToColumn_min : ∀ (s : List Char) (offset : Nat),
    Text.byteToColumn s (min offset (utf8Length s)) = Text.byteToColumn s offset
  | [], _ => rfl
  | c :: s, offset => by
    have hc := Char.utf8Size_pos c
    rw [Text.byteToColumn, Text.byteToColumn, utf8Length_cons]
    by_cases h : offset = 0
    · rw [if_pos (by omega), if_pos h]
    · have hmin : min offset (c.utf8Size + utf8Length s) - c.utf8Size
          = min (offset - c.utf8Size) (utf8Length s) := by omega
      rw [if_neg (by omega), if_neg h, hmin, byteToColumn_min s]

theorem byteToColumn_eq {line : List Char} (h : utf8Length line < wordLimit) (offset : Nat) :
    byteToColumn line offset = pure (Text.byteToColumn line offset) := by
  have hlt := utf16Length_le line
  rw [byteToColumn, byteToColumnFrom_eq line 0 0 _ (by omega), Nat.zero_add, Nat.sub_zero,
    byteToColumn_min]

/-! ## Identifier runs -/

/-- Goes back from an offset while the byte before it is an identifier's. -/
def identStartFrom (bs : List UInt8) : Nat → Checked Nat
  | 0 => pure 0
  | start + 1 => do
    let b ← entry bs start
    if isIdentByte b then identStartFrom bs start else pure (start + 1)

def identStart (line : List Char) (offset : Nat) : Checked Nat :=
  identStartFrom (bytes line) (min offset (bytes line).length)

/-- Goes on from an offset, over at most `left` bytes, while the byte at it is an identifier's. -/
def identEndFrom (bs : List UInt8) : Nat → Nat → Checked Nat
  | 0, stop => pure stop
  | left + 1, stop => do
    let b ← entry bs stop
    if isIdentByte b then
      let next ← add stop 1
      identEndFrom bs left next
    else pure stop

def identEnd (line : List Char) (offset : Nat) : Checked Nat :=
  let stop := min offset (bytes line).length
  identEndFrom (bytes line) ((bytes line).length - stop) stop

def trailingIdentifier (text : List Char) : Checked (Option (List Char)) := do
  let trimmed := trimEnd text
  let start ← identStart trimmed (utf8Length trimmed)
  let run ← cut trimmed start (utf8Length trimmed)
  match run.dropWhile Char.isDigit with
  | [] => pure none
  | name => pure (some name)

theorem identStartFrom_eq (bs : List UInt8) : ∀ start : Nat, start ≤ bs.length →
    identStartFrom bs start
      = pure (start - ((bs.take start).reverse.takeWhile isIdentByte).length)
  | 0, _ => rfl
  | start + 1, h => by
    have hb : bs[start]? = some bs[start] := List.getElem?_eq_getElem h
    rw [identStartFrom, entry_eq hb, pure_bind, List.take_add_one, hb, Option.toList_some,
      List.reverse_append, List.reverse_singleton, List.singleton_append, List.takeWhile_cons]
    split_ifs with hi
    · rw [identStartFrom_eq bs start (Nat.le_of_succ_le h), List.length_cons,
        Nat.add_sub_add_right]
    · rfl

theorem identEndFrom_eq (bs : List UInt8) (hbs : bs.length < wordLimit) : ∀ left stop : Nat,
    stop + left = bs.length →
      identEndFrom bs left stop = pure (stop + ((bs.drop stop).takeWhile isIdentByte).length)
  | 0, stop, h => by
    rw [identEndFrom, List.drop_of_length_le (by omega)]
    rfl
  | left + 1, stop, h => by
    have hlt : stop < bs.length := by omega
    rw [identEndFrom, entry_eq (List.getElem?_eq_getElem hlt), pure_bind,
      List.drop_eq_getElem_cons hlt, List.takeWhile_cons]
    split_ifs with hi
    · rw [add_eq (by omega), pure_bind, identEndFrom_eq bs hbs left (stop + 1) (by omega),
        List.length_cons]
      congr 1
      omega
    · rfl

theorem identStart_eq (line : List Char) (offset : Nat) :
    identStart line offset = pure (Text.identStart line offset) := by
  rw [identStart, identStartFrom_eq _ _ (Nat.min_le_right _ _), bytes_length, Text.identStart]

theorem identEnd_eq {line : List Char} (h : utf8Length line < wordLimit) (offset : Nat) :
    identEnd line offset = pure (Text.identEnd line offset) := by
  have hle := Nat.min_le_right offset (bytes line).length
  rw [identEnd, identEndFrom_eq _ (by rwa [bytes_length]) _ _ (by omega), bytes_length,
    Text.identEnd]

/-- The run before the end of a text is cut off between two characters, whatever stands before. -/
theorem trailingIdentifier_eq (text : List Char) :
    trailingIdentifier text = pure (Text.trailingIdentifier text) := by
  have hrun : trailingRun (trimEnd text) = (trimEnd text).rtakeWhile isIdentChar := rfl
  have hstart := identStart_append (trimEnd text) []
  have hcut := cut_append ((trimEnd text).rdropWhile isIdentChar)
    ((trimEnd text).rtakeWhile isIdentChar) []
  rw [List.rdropWhile_append_rtakeWhile, List.append_nil] at hcut
  rw [List.append_nil] at hstart
  simp only [trailingIdentifier, identStart_eq, hstart, pure_bind, hcut, Text.trailingIdentifier,
    hrun]
  rcases ((trimEnd text).rtakeWhile isIdentChar).dropWhile Char.isDigit with _ | ⟨c, name⟩
  · rfl
  · rfl

end Checked

end GlslAssist
