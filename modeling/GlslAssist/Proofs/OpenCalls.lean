import GlslAssist.CallSite
import GlslAssist.Proofs.Lines

/-!
# Open calls

Reading a text forwards, an opening parenthesis begins a call, a closing one ends the innermost
call that is open, and a comma counts in the innermost. The search for a call site reads backwards,
with a depth and one count of commas; it finds the innermost call that the forward reading leaves
open (`find_eq_innermost`).

The invariant is `readBack_agrees`: a backward reading at depth `d` looks at the forward stack
without its `d` innermost calls, and the commas it has counted belong to the innermost of the rest.
-/

namespace GlslAssist

open Text

namespace CallSite

/-- A call that is open: where its parenthesis stands, and the commas read in it. -/
structure Frame where
  line : Nat
  offset : Nat
  commas : Nat
  deriving DecidableEq, Repr

/-- More commas in the innermost call. -/
def addCommas (k : Nat) (stack : List Frame) : List Frame :=
  stack.modifyHead fun f => { f with commas := f.commas + k }

/-- Reads one byte, at an offset of line `n`. -/
def readByte (n offset : Nat) (b : UInt8) (stack : List Frame) : List Frame :=
  if b = '('.toUInt8 then ⟨n, offset, 0⟩ :: stack
  else if b = ')'.toUInt8 then stack.tail
  else if b = ','.toUInt8 then addCommas 1 stack
  else stack

/-- Reads the bytes of line `n` from an offset on. -/
def readBytes (n : Nat) : Nat → List UInt8 → List Frame → List Frame
  | _, [], stack => stack
  | offset, b :: rest, stack => readBytes n (offset + 1) rest (readByte n offset b stack)

/-- The calls that are open after numbered lines, the innermost first. -/
def openCalls (lines : List (Nat × List Char)) : List Frame :=
  lines.foldl (fun stack l => readBytes l.1 0 (bytes l.2) stack) []

/-- The text that a search may see: up to `lookback` lines above the position, then the
position's line up to it. -/
def textBefore (doc : Document) (pos : Position) (lookback : Nat) : List (Nat × List Char) :=
  match doc.line? pos.line with
  | none => []
  | some line =>
    let first := pos.line - lookback
    ((List.range' first (pos.line - first)).filterMap fun n => (doc.line? n).map (n, ·))
      ++ [(pos.line, slice line 0 (columnToByte line pos.character))]

/-- The call of a frame, if a name stands before its parenthesis. -/
def Frame.callSite? (doc : Document) (f : Frame) : Option CallSite :=
  (doc.line? f.line).bind fun line =>
    (trailingIdentifier (slice line 0 f.offset)).map fun name => ⟨String.ofList name, f.commas⟩

/-! ## One line -/

theorem addCommas_zero (stack : List Frame) : addCommas 0 stack = stack := by
  cases stack <;> rfl

theorem addCommas_nil (k : Nat) : addCommas k [] = [] := rfl

theorem addCommas_eq_nil_iff {k : Nat} {stack : List Frame} :
    addCommas k stack = [] ↔ stack = [] :=
  List.modifyHead_eq_nil_iff

theorem addCommas_addCommas (j k : Nat) (stack : List Frame) :
    addCommas j (addCommas k stack) = addCommas (k + j) stack := by
  cases stack <;> simp [addCommas, Nat.add_assoc]

theorem drop_succ_addCommas (k d : Nat) (stack : List Frame) :
    (addCommas k stack).drop (d + 1) = stack.drop (d + 1) := by
  cases stack <;> rfl

/-- What one character does, wherever its bytes stand. -/
def readChar (n offset : Nat) (c : Char) (stack : List Frame) : List Frame :=
  if c = '(' then ⟨n, offset, 0⟩ :: stack
  else if c = ')' then stack.tail
  else if c = ',' then addCommas 1 stack
  else stack

theorem readBytes_append (n : Nat) : ∀ (xs ys : List UInt8) (offset : Nat) (stack : List Frame),
    readBytes n offset (xs ++ ys) stack
      = readBytes n (offset + xs.length) ys (readBytes n offset xs stack)
  | [], ys, offset, stack => rfl
  | x :: xs, ys, offset, stack => by
    rw [List.cons_append, readBytes, readBytes_append n xs, readBytes, List.length_cons,
      Nat.add_right_comm, Nat.add_assoc]

theorem readByte_of_not_ascii {n offset : Nat} {b : UInt8} (h : 128 ≤ b.toNat)
    (stack : List Frame) : readByte n offset b stack = stack := by
  have hne : ∀ c : Char, c.toUInt8.toNat < 128 → b ≠ c.toUInt8 := by
    rintro c hc rfl
    omega
  rw [readByte, if_neg (hne '(' (by decide)), if_neg (hne ')' (by decide)),
    if_neg (hne ',' (by decide))]

theorem readBytes_of_not_ascii (n : Nat) : ∀ (bs : List UInt8) (offset : Nat) (stack : List Frame),
    (∀ b ∈ bs, 128 ≤ b.toNat) → readBytes n offset bs stack = stack
  | [], _, _, _ => rfl
  | b :: bs, offset, stack, h => by
    rw [readBytes, readByte_of_not_ascii (h b List.mem_cons_self),
      readBytes_of_not_ascii n bs _ _ fun x hx => h x (List.mem_cons_of_mem _ hx)]

theorem readBytes_encode (n offset : Nat) (c : Char) (stack : List Frame) :
    readBytes n offset (String.utf8EncodeChar c) stack = readChar n offset c stack := by
  by_cases hc : IsAscii c
  · have hiff {d : Char} (hd : IsAscii d) : UInt8.ofNat c.toNat = d.toUInt8 ↔ c = d :=
      eq_toUInt8_iff hd (by rw [encode_of_ascii hc]; exact List.mem_singleton_self _)
    rw [encode_of_ascii hc]
    simp only [readBytes, readByte, readChar, hiff (show IsAscii '(' by decide),
      hiff (show IsAscii ')' by decide), hiff (show IsAscii ',' by decide)]
  · have hne : ∀ d : Char, IsAscii d → c ≠ d := by
      rintro d hd rfl
      exact hc hd
    rw [readBytes_of_not_ascii n _ _ _ fun b hb => not_ascii_of_mem_encode hc hb, readChar,
      if_neg (hne '(' (by decide)), if_neg (hne ')' (by decide)), if_neg (hne ',' (by decide))]

theorem readBytes_concat (n : Nat) (s : List Char) (c : Char) (stack : List Frame) :
    readBytes n 0 (bytes (s ++ [c])) stack
      = readChar n (utf8Length s) c (readBytes n 0 (bytes s) stack) := by
  rw [bytes_append, readBytes_append, Nat.zero_add, bytes_length,
    show bytes [c] = String.utf8EncodeChar c by simp [bytes], readBytes_encode]

/-- What a backward reading of line `n` says of the calls `seen` where it began, those left out
that it has to close first, and of the calls `stack` that are open before the line. -/
def Agrees (n : Nat) (stack seen : List Frame) : Reading → Prop
  | .opened before commas => ∃ outer, seen = ⟨n, utf8Length before, commas⟩ :: outer
  | .passed depth commas => seen = addCommas commas (stack.drop depth)

theorem readBack_agrees (n : Nat) (stack : List Frame) : ∀ (r : List Char) (depth commas : Nat),
    Agrees n stack (addCommas commas ((readBytes n 0 (bytes r.reverse) stack).drop depth))
      (readBack r depth commas)
  | [], depth, commas => rfl
  | c :: r, depth, commas => by
    rw [List.reverse_cons, readBytes_concat, readBack_cons]
    have ih := readBack_agrees n stack r
    generalize readBytes n 0 (bytes r.reverse) stack = seen at ih ⊢
    split_ifs with hclose hopen hcomma
    · subst hclose
      rw [show readChar n _ ')' seen = seen.tail from rfl, List.drop_tail]
      exact ih (depth + 1) commas
    · subst hopen
      rw [show readChar n _ '(' seen = ⟨n, _, 0⟩ :: seen from rfl]
      rcases depth with _ | depth
      · exact ⟨seen, by simp [addCommas]⟩
      · exact ih depth commas
    · obtain ⟨rfl, rfl⟩ := hcomma
      rw [show readChar n _ ',' seen = addCommas 1 seen from rfl, List.drop_zero,
        addCommas_addCommas, Nat.add_comm]
      exact ih 0 (commas + 1)
    · rw [readChar, if_neg hopen, if_neg hclose]
      split_ifs with hc
      · rcases depth with _ | depth
        · exact absurd ⟨hc, rfl⟩ hcomma
        · rw [drop_succ_addCommas]
          exact ih (depth + 1) commas
      · exact ih depth commas

theorem readBack_opened : ∀ (r : List Char) (depth commas : Nat) {before : List Char}
    {commas' : Nat}, readBack r depth commas = .opened before commas' →
      ∃ rest, r.reverse = before ++ '(' :: rest
  | [], depth, commas, before, commas', h => by simp [readBack] at h
  | c :: r, depth, commas, before, commas', h => by
    have extend : ∀ {d k : Nat}, readBack r d k = .opened before commas' →
        ∃ rest, (c :: r).reverse = before ++ '(' :: rest := by
      intro d k h
      obtain ⟨rest, hr⟩ := readBack_opened r d k h
      exact ⟨rest ++ [c], by rw [List.reverse_cons, hr, List.append_assoc, List.cons_append]⟩
    rw [readBack_cons] at h
    split_ifs at h with hclose hopen hcomma
    · exact extend h
    · subst hopen
      rcases depth with _ | depth
      · simp only [Reading.opened.injEq] at h
        exact ⟨[], by rw [List.reverse_cons, h.1]⟩
      · exact extend h
    · exact extend h
    · exact extend h

/-! ## The lines of a window -/

theorem openCalls_concat (ws : List (Nat × List Char)) (n : Nat) (l : List Char) :
    openCalls (ws ++ [(n, l)]) = readBytes n 0 (bytes l) (openCalls ws) := by
  simp [openCalls]

/-- What a search through lines, the nearest first, says of the calls that are open after them. -/
theorem readLines_agrees : ∀ (ws : List (Nat × List Char)) (depth commas : Nat),
    match readLines (ws.map Prod.snd) depth commas with
    | none => (openCalls ws.reverse).drop depth = []
    | some (before, commas') => ∃ n outer rest,
        addCommas commas ((openCalls ws.reverse).drop depth)
          = ⟨n, utf8Length before, commas'⟩ :: outer ∧ (n, before ++ '(' :: rest) ∈ ws
  | [], depth, commas => by simp [readLines, openCalls]
  | (n, l) :: ws, depth, commas => by
    have hl := readBack_agrees n (openCalls ws.reverse) l.reverse depth commas
    rw [List.reverse_reverse] at hl
    rw [List.reverse_cons, openCalls_concat, List.map_cons, readLines]
    rcases hr : readBack l.reverse depth commas with ⟨before, commas'⟩ | ⟨depth', commas'⟩
    · rw [hr] at hl
      obtain ⟨outer, ho⟩ := hl
      obtain ⟨rest, hb⟩ := readBack_opened _ _ _ hr
      rw [List.reverse_reverse] at hb
      exact ⟨n, outer, rest, ho, hb ▸ List.mem_cons_self⟩
    · rw [hr] at hl
      simp only [Agrees] at hl
      have ih := readLines_agrees ws depth' commas'
      simp only []
      split at ih
      · rwa [ih, addCommas_nil, addCommas_eq_nil_iff] at hl
      · obtain ⟨m, outer, rest, ho, hm⟩ := ih
        exact ⟨m, outer, rest, hl.trans ho, List.mem_cons_of_mem _ hm⟩

theorem linesAbove_eq (doc : Document) : ∀ n count : Nat,
    linesAbove doc n count
      = ((List.range' (n - count) (n - (n - count))).filterMap
          fun m => (doc.line? m).map (m, ·)).reverse.map Prod.snd
  | n, 0 => by cases n <;> simp [linesAbove]
  | 0, count + 1 => by simp [linesAbove]
  | n + 1, count + 1 => by
    have hlen : n + 1 - (n - count) = n - (n - count) + 1 := by omega
    have hlast : n - count + (n - (n - count)) = n := by omega
    rw [linesAbove, linesAbove_eq doc n count, Nat.add_sub_add_right, hlen, List.range'_concat,
      Nat.one_mul, hlast, List.filterMap_append, List.reverse_append, List.map_append]
    rcases h : doc.line? n with _ | line <;> simp [h]

theorem window_eq (doc : Document) (pos : Position) (lookback : Nat) :
    window doc pos lookback = (doc.line? pos.line).map fun _ =>
      (textBefore doc pos lookback).reverse.map Prod.snd := by
  rw [window, textBefore]
  rcases doc.line? pos.line with _ | line
  · rfl
  · simp only [Option.map_some, List.reverse_append, List.reverse_singleton, List.singleton_append,
      List.map_cons]
    rw [linesAbove_eq]

theorem exists_line_of_mem_textBefore {doc : Document} {pos : Position} {lookback n : Nat}
    {l : List Char} (h : (n, l) ∈ textBefore doc pos lookback) :
    ∃ rest, doc.line? n = some (l ++ rest) := by
  rw [textBefore] at h
  split at h
  · simp at h
  · rename_i line hline
    rcases List.mem_append.1 h with h | h
    · obtain ⟨m, -, hm⟩ := List.mem_filterMap.1 h
      obtain ⟨l', hl', heq⟩ := Option.map_eq_some_iff.1 hm
      simp only [Prod.mk.injEq] at heq
      obtain ⟨rfl, rfl⟩ := heq
      exact ⟨[], by rw [hl', List.append_nil]⟩
    · obtain ⟨p, q, rfl, hp⟩ := columnToByte_eq line pos.character
      simp only [List.mem_singleton, Prod.mk.injEq, hp, slice_zero_append] at h
      obtain ⟨rfl, rfl⟩ := h
      exact ⟨q, hline⟩

/-- A search through a window finds the parenthesis of the innermost call that its text leaves open. -/
theorem readLines_textBefore (doc : Document) (pos : Position) (lookback : Nat) :
    match readLines ((textBefore doc pos lookback).reverse.map Prod.snd) 0 0 with
    | none => openCalls (textBefore doc pos lookback) = []
    | some (before, commas) => ∃ n outer rest,
        openCalls (textBefore doc pos lookback) = ⟨n, utf8Length before, commas⟩ :: outer
          ∧ (n, before ++ '(' :: rest) ∈ textBefore doc pos lookback := by
  have h := readLines_agrees (textBefore doc pos lookback).reverse 0 0
  rw [List.reverse_reverse, List.drop_zero, addCommas_zero] at h
  simpa only [List.mem_reverse] using h

/-- The search finds the innermost call that is open. -/
theorem find_eq_innermost (doc : Document) (pos : Position) (lookback : Nat) :
    find doc pos lookback
      = (openCalls (textBefore doc pos lookback)).head?.bind (Frame.callSite? doc) := by
  rw [find, window_eq]
  rcases hline : doc.line? pos.line with _ | line
  · simp [textBefore, hline, openCalls]
  have h := readLines_textBefore doc pos lookback
  simp only [Option.map_some]
  rcases hs : readLines ((textBefore doc pos lookback).reverse.map Prod.snd) 0 0
    with _ | ⟨before, commas⟩
  · simp only [hs] at h
    rw [h]
    rfl
  · simp only [hs] at h
    obtain ⟨n, outer, rest, ho, hm⟩ := h
    obtain ⟨rest', hl⟩ := exists_line_of_mem_textBefore hm
    rw [List.append_assoc] at hl
    simp only [ho, List.head?_cons, Option.bind_some, Frame.callSite?, hl, slice_zero_append]

/-- A call site is reported exactly when some call is open at the position and a name stands before
the parenthesis of the innermost one. -/
theorem find_eq_some_iff (doc : Document) (pos : Position) (lookback : Nat) (site : CallSite) :
    find doc pos lookback = some site ↔
      ∃ top outer line name, openCalls (textBefore doc pos lookback) = top :: outer
        ∧ doc.line? top.line = some line
        ∧ trailingIdentifier (slice line 0 top.offset) = some name
        ∧ site = ⟨String.ofList name, top.commas⟩ := by
  rw [find_eq_innermost]
  rcases openCalls (textBefore doc pos lookback) with _ | ⟨top, outer⟩
  · simp
  · simp only [List.head?_cons, Option.bind_some, Frame.callSite?, Option.bind_eq_some_iff,
      Option.map_eq_some_iff]
    constructor
    · rintro ⟨line, hl, name, hname, rfl⟩
      exact ⟨top, outer, line, name, rfl, hl, hname, rfl⟩
    · rintro ⟨top', outer', line, name, heq, hl, hname, rfl⟩
      simp only [List.cons.injEq] at heq
      obtain ⟨rfl, rfl⟩ := heq
      exact ⟨line, hl, name, hname, rfl⟩

example : find (.ofText "mix(a, f(b, c)\n, ") ⟨1, 2⟩ defaultLookback = some ⟨"mix", 2⟩ := by
  decide

end CallSite

end GlslAssist
