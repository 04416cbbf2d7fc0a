import GlslAssist.Proofs.CheckedDocument
import GlslAssist.Proofs.OpenCalls

/-!
# The search for a call with every step checked

The search reads bytes, last one first, through the lines of its window. Bytes of longer characters
are none that it looks for, so it cuts the line before a parenthesis only (`scanLine_eq`); and each
byte raises at most one of its counters, by one, so neither exceeds the length of what was read
(`readBack_passed_le`), which is part of the text.
-/

namespace GlslAssist

open Text Decimal

namespace Checked

/-- Reads the bytes of a line before an offset. It comes to an answer, or to the closings still to
be matched and the commas so far. -/
def scanLine (line : List Char) : Nat → Nat → Nat → Checked (Option CallSite ⊕ Nat × Nat)
  | 0, depth, commas => pure (.inr (depth, commas))
  | i + 1, depth, commas => do
    let b ← entry (bytes line) i
    if b = ')'.toUInt8 then
      let deeper ← add depth 1
      scanLine line i deeper commas
    else if b = '('.toUInt8 ∧ 0 < depth then
      let shallower ← sub depth 1
      scanLine line i shallower commas
    else if b = '('.toUInt8 then
      let before ← cut line 0 i
      let name ← trailingIdentifier before
      pure (.inl (name.map fun name => ⟨String.ofList name, commas⟩))
    else if b = ','.toUInt8 ∧ depth = 0 then
      let more ← add commas 1
      scanLine line i depth more
    else scanLine line i depth commas

/-- Where the reading of a line begins. -/
def readFrom (pos : Position) (n : Nat) (line : List Char) : Checked Nat :=
  if n = pos.line then columnToByte line pos.character else pure (utf8Length line)

/-- Reads numbered lines one after another. -/
def scanLines (d : Snapshot) (pos : Position) : List Nat → Nat → Nat → Checked (Option CallSite)
  | [], _, _ => pure none
  | n :: rest, depth, commas => do
    match ← d.line? n with
    | none => pure none
    | some line =>
      let start ← readFrom pos n line
      match ← scanLine line start depth commas with
      | .inl found => pure found
      | .inr (depth, commas) => scanLines d pos rest depth commas

def findCall (d : Snapshot) (pos : Position) (lookback : Nat) : Checked (Option CallSite) :=
  let first := pos.line - lookback
  scanLines d pos (List.range' first (pos.line - first + 1)).reverse 0 0

/-! ## One line -/

theorem getElem?_bytes (p : List Char) (c : Char) (q : List Char) {k : Nat} (hk : k < c.utf8Size) :
    (bytes (p ++ c :: q))[utf8Length p + k]? = (String.utf8EncodeChar c)[k]? := by
  rw [bytes_append, List.getElem?_append_right (by rw [bytes_length]; omega), bytes_length,
    Nat.add_sub_cancel_left, bytes_cons,
    List.getElem?_append_left (by rwa [String.length_utf8EncodeChar])]

theorem entry_bytes (p q : List Char) {d : Char} (hd : IsAscii d) :
    entry (bytes (p ++ d :: q)) (utf8Length p) = pure d.toUInt8 := by
  have h := getElem?_bytes p d q (Char.utf8Size_pos d)
  rw [Nat.add_zero, encode_of_ascii hd] at h
  exact entry_eq h

theorem scanLine_skip (p : List Char) {c : Char} (q : List Char) (depth commas : Nat)
    (hclose : c ≠ ')') (hopen : c ≠ '(') (hcomma : c ≠ ',') : ∀ k : Nat, k ≤ c.utf8Size →
      scanLine (p ++ c :: q) (utf8Length p + k) depth commas
        = scanLine (p ++ c :: q) (utf8Length p) depth commas
  | 0, _ => rfl
  | k + 1, hk => by
    have hlt : k < (String.utf8EncodeChar c).length := by rwa [String.length_utf8EncodeChar]
    have hb := getElem?_bytes p c q (k := k) hk
    rw [List.getElem?_eq_getElem hlt] at hb
    have hne {d : Char} (hd : IsAscii d) (hc : c ≠ d) :
        (String.utf8EncodeChar c)[k] ≠ d.toUInt8 := fun h =>
      hc ((eq_toUInt8_iff hd (List.getElem_mem hlt)).1 h)
    rw [← Nat.add_assoc, scanLine, entry_eq hb, pure_bind, if_neg (hne (by decide) hclose),
      if_neg fun h => hne (by decide) hopen h.1, if_neg (hne (by decide) hopen),
      if_neg fun h => hne (by decide) hcomma h.1]
    exact scanLine_skip p q depth commas hclose hopen hcomma k (Nat.le_of_succ_le hk)

/-- What the search makes of one line. -/
def outcome : CallSite.Reading → Option CallSite ⊕ Nat × Nat
  | .opened before commas =>
    .inl ((Text.trailingIdentifier before).map fun name => ⟨String.ofList name, commas⟩)
  | .passed depth commas => .inr (depth, commas)

theorem scanLine_eq : ∀ (r q : List Char) (depth commas : Nat),
    depth + commas + utf8Length r.reverse < wordLimit →
      scanLine (r.reverse ++ q) (utf8Length r.reverse) depth commas
        = pure (outcome (CallSite.readBack r depth commas))
  | [], q, depth, commas, _ => rfl
  | c :: r, q, depth, commas, h => by
    have hsize := Char.utf8Size_pos c
    rw [List.reverse_cons, utf8Length_append, utf8Length_cons, utf8Length_nil, Nat.add_zero] at h ⊢
    rw [List.append_assoc, List.singleton_append, CallSite.readBack_cons]
    have ih := scanLine_eq r (c :: q)
    split_ifs with hclose hopen hcomma
    · subst hclose
      rw [show ')'.utf8Size = 1 by decide, scanLine, entry_bytes _ _ (by decide), pure_bind,
        if_pos rfl, add_eq (by omega), pure_bind, ih _ _ (by omega)]
    · subst hopen
      rw [show '('.utf8Size = 1 by decide, scanLine, entry_bytes _ _ (by decide), pure_bind,
        if_neg (by decide)]
      rcases depth with _ | depth
      · have hcut := cut_append [] r.reverse ('(' :: q)
        rw [List.nil_append, utf8Length_nil] at hcut
        rw [if_neg (by simp), if_pos rfl, hcut, pure_bind, trailingIdentifier_eq, pure_bind]
        rfl
      · rw [if_pos ⟨rfl, Nat.succ_pos depth⟩, sub_eq (Nat.le_add_left 1 depth), pure_bind,
          Nat.add_sub_cancel, ih _ _ (by omega)]
    · obtain ⟨rfl, rfl⟩ := hcomma
      rw [show ','.utf8Size = 1 by decide, scanLine, entry_bytes _ _ (by decide), pure_bind,
        if_neg (by decide), if_neg (by decide), if_neg (by decide), if_pos ⟨rfl, rfl⟩,
        add_eq (by omega), pure_bind, ih _ _ (by omega)]
    · -- a comma may still be here, inside a call that is closed
      by_cases hc : c = ','
      · subst hc
        have hdepth : depth ≠ 0 := fun h0 => hcomma ⟨rfl, h0⟩
        rw [show ','.utf8Size = 1 by decide, scanLine, entry_bytes _ _ (by decide), pure_bind,
          if_neg (by decide), if_neg fun h => absurd h.1 (by decide), if_neg (by decide),
          if_neg fun h => hdepth h.2, ih _ _ (by omega)]
      · rw [scanLine_skip _ _ _ _ hclose hopen hc _ (Nat.le_refl _), ih _ _ (by omega)]

theorem readBack_passed_le : ∀ (r : List Char) (depth commas : Nat) {depth' commas' : Nat},
    CallSite.readBack r depth commas = .passed depth' commas' →
      depth' + commas' ≤ depth + commas + utf8Length r
  | [], depth, commas, depth', commas', h => by
    rw [CallSite.readBack, CallSite.Reading.passed.injEq] at h
    obtain ⟨rfl, rfl⟩ := h
    exact Nat.le_refl _
  | c :: r, depth, commas, depth', commas', h => by
    have hsize := Char.utf8Size_pos c
    have ih {d k : Nat} (h : CallSite.readBack r d k = .passed depth' commas') :
        depth' + commas' ≤ d + k + utf8Length r := readBack_passed_le r d k h
    rw [CallSite.readBack_cons] at h
    rw [utf8Length_cons]
    split_ifs at h
    · have := ih h
      omega
    · rcases depth with _ | depth
      · simp at h
      · have := ih h
        omega
    · have := ih h
      omega
    · have := ih h
      omega

/-! ## A window of lines -/

variable {doc : Document} {pos : Position}

theorem utf8Length_reverse (s : List Char) : utf8Length s.reverse = utf8Length s := by
  induction s with
  | nil => rfl
  | cons c s ih =>
    rw [List.reverse_cons, utf8Length_append, ih, utf8Length_cons, utf8Length_cons,
      utf8Length_nil]
    omega

/-- What the search makes of all it has read. -/
def answer : Option (List Char × Nat) → Option CallSite
  | none => none
  | some (before, commas) =>
    (Text.trailingIdentifier before).map fun name => ⟨String.ofList name, commas⟩

/-- The bytes of the lines that a search reads. -/
def total : List (List Char) → Nat
  | [] => 0
  | line :: above => utf8Length line + total above

/-- One line, and then those above it. -/
theorem scanLine_readLines {p q : List Char} {depth commas : Nat} {above : List (List Char)}
    {next : Nat → Nat → Checked (Option CallSite)}
    (h : depth + commas + total (p :: above) < wordLimit)
    (hnext : ∀ d k, d + k + total above < wordLimit →
      next d k = pure (answer (CallSite.readLines above d k))) :
    (scanLine (p ++ q) (utf8Length p) depth commas >>= fun
        | .inl found => pure found
        | .inr (d, k) => next d k)
      = pure (answer (CallSite.readLines (p :: above) depth commas)) := by
  rw [total] at h
  have hline := scanLine_eq p.reverse q depth commas
  rw [List.reverse_reverse] at hline
  rw [hline (by omega), pure_bind, CallSite.readLines]
  rcases hr : CallSite.readBack p.reverse depth commas with ⟨before, k⟩ | ⟨d, k⟩
  · rfl
  · have hle := readBack_passed_le _ _ _ hr
    rw [utf8Length_reverse] at hle
    exact hnext d k (by omega)

theorem scanLines_eq (h : doc.Fits) : ∀ (ns : List Nat) (depth commas : Nat),
    (∀ n ∈ ns, n ≠ pos.line ∧ (doc.line? n).isSome) →
    depth + commas + total (ns.filterMap doc.line?) < wordLimit →
      scanLines doc.snapshot pos ns depth commas
        = pure (answer (CallSite.readLines (ns.filterMap doc.line?) depth commas))
  | [], _, _, _, _ => rfl
  | n :: ns, depth, commas, hns, hlt => by
    obtain ⟨hn, hsome⟩ := hns n List.mem_cons_self
    obtain ⟨line, hl⟩ := Option.isSome_iff_exists.1 hsome
    have ih := fun d k => scanLines_eq h ns d k fun m hm => hns m (List.mem_cons_of_mem n hm)
    rw [List.filterMap_cons_some hl] at hlt ⊢
    rw [scanLines, line?_eq h, pure_bind, hl]
    simp only [readFrom, if_neg hn, pure_bind]
    have hone := scanLine_readLines (q := []) hlt ih
    rwa [List.append_nil] at hone

theorem linesAbove_eq_filterMap (doc : Document) (n count : Nat) :
    CallSite.linesAbove doc n count
      = (List.range' (n - count) (n - (n - count))).reverse.filterMap doc.line? := by
  rw [CallSite.linesAbove_eq, List.filterMap_reverse, List.map_reverse, List.map_filterMap]
  congr 2
  funext m
  rcases doc.line? m with _ | line
  · rfl
  · rfl

theorem total_linesAbove_le (doc : Document) : ∀ n count : Nat,
    total (CallSite.linesAbove doc n count) ≤ utf8Length (piecesBefore doc.pieces n)
  | n, 0 => by cases n <;> exact Nat.zero_le _
  | 0, count + 1 => Nat.zero_le _
  | n + 1, count + 1 => by
    have ih := total_linesAbove_le doc n count
    rw [CallSite.linesAbove, Document.line?_eq]
    rcases hs : doc.pieces[n]? with _ | s
    · rw [piecesBefore, List.take_add_one, hs, Option.toList_none, List.append_nil]
      exact ih
    · have hle := Document.utf8Length_dropReturn_le s
      rw [Option.map_some, Option.toList_some, List.singleton_append, total,
        piecesBefore_succ hs, utf8Length_append, utf8Length_append]
      omega

theorem findCall_eq (h : doc.Fits) (pos : Position) (lookback : Nat) :
    findCall doc.snapshot pos lookback = pure (CallSite.find doc pos lookback) := by
  have hlast : pos.line - lookback + 1 * (pos.line - (pos.line - lookback)) = pos.line := by omega
  rw [findCall, List.range'_concat, hlast, List.reverse_append, List.reverse_singleton,
    List.singleton_append, scanLines, line?_eq h, pure_bind, CallSite.find, CallSite.window]
  rcases hl : doc.line? pos.line with _ | line
  · rfl
  · have hlen := utf8Length_line_lt h hl
    have hle := Document.utf8Length_line_le hl
    have habove := total_linesAbove_le doc pos.line lookback
    obtain ⟨p, q, rfl, hp⟩ := Text.columnToByte_eq line pos.character
    rw [utf8Length_append] at hle
    have hlt : 0 + 0 + total (p :: CallSite.linesAbove doc pos.line lookback) < wordLimit := by
      rw [Document.Fits] at h
      rw [total]
      omega
    have hns : ∀ n ∈ (List.range' (pos.line - lookback) (pos.line - (pos.line - lookback))).reverse,
        n ≠ pos.line ∧ (doc.line? n).isSome := by
      intro n hn
      rw [List.mem_reverse, List.mem_range'_1] at hn
      have hsome : (doc.line? pos.line).isSome := by rw [hl]; rfl
      exact ⟨by omega, Document.line?_isSome_of_le hsome (by omega)⟩
    have hrest := fun d k => scanLines_eq h _ d k hns
    rw [← linesAbove_eq_filterMap] at hrest
    have hone := scanLine_readLines (q := q) hlt hrest
    simp only [readFrom, if_pos, columnToByte_eq hlen, hp, pure_bind, Option.map_some,
      slice_zero_append]
    exact hone

end Checked

end GlslAssist
