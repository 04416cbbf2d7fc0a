import GlslAssist.Proofs.Edits
import GlslAssist.Proofs.Window
import Mathlib.Data.List.Infix

/-!
# Typing balanced text inside a call

What is typed at the cursor with its parentheses matched opens no call that stays open and closes
none that was there, so the call around the cursor is the one it was before, and only the commas
outside the typed parentheses move its argument on (`find_typed_balanced`).

The search enters the text from its end. Having read it back to an initial segment `t`, it stands at
the depth that `t` opens (`readBack_covered`), and depth zero is where `t` has closed what it opened.
-/

namespace GlslAssist

open Text

/-- No initial segment of the text closes more parentheses than it opens, and the text as a whole
closes all that it opens. -/
structure Balanced (s : List Char) : Prop where
  covered : ∀ t, t <+: s → t.count ')' ≤ t.count '('
  settled : s.count ')' = s.count '('

instance (s : List Char) : Decidable (Balanced s) :=
  decidable_of_iff ((∀ t ∈ s.inits, t.count ')' ≤ t.count '(') ∧ s.count ')' = s.count '(')
    ⟨fun h => ⟨fun t ht => h.1 t ((List.mem_inits t s).2 ht), h.2⟩,
      fun h => ⟨fun t ht => h.covered t ((List.mem_inits t s).1 ht), h.settled⟩⟩

/-- The commas outside all parentheses of the text: each ends an initial segment that has closed
what it opened. -/
def outerCommas (s : List Char) : Nat :=
  s.inits.countP fun t => t.getLast? == some ',' && t.count ')' == t.count '('

theorem outerCommas_concat (s : List Char) (c : Char) :
    outerCommas (s ++ [c])
      = outerCommas s + if c = ',' ∧ s.count ')' = s.count '(' then 1 else 0 := by
  have hinits : (s ++ [c]).inits = s.inits ++ [s ++ [c]] := by simp [List.inits_append]
  rw [outerCommas, hinits, List.countP_append, List.countP_singleton, outerCommas]
  congr 1
  refine if_congr ?_ rfl rfl
  by_cases hc : c = ','
  · subst hc
    simp
  · simp [hc]

namespace CallSite

/-- The reading with more commas seen. -/
def Reading.addCommas (k : Nat) : Reading → Reading
  | .opened before commas => .opened before (commas + k)
  | .passed depth commas => .passed depth (commas + k)

theorem readBack_add : ∀ (r : List Char) (depth commas k : Nat),
    readBack r depth (commas + k) = (readBack r depth commas).addCommas k
  | [], _, _, _ => rfl
  | c :: r, depth, commas, k => by
    rw [readBack_cons, readBack_cons]
    split_ifs
    · exact readBack_add r (depth + 1) commas k
    · rcases depth with _ | depth
      · rfl
      · exact readBack_add r depth commas k
    · rw [Nat.add_right_comm]
      exact readBack_add r depth (commas + 1) k
    · exact readBack_add r depth commas k

theorem readLines_add : ∀ (lines : List (List Char)) (depth commas k : Nat),
    readLines lines depth (commas + k)
      = (readLines lines depth commas).map fun found => (found.1, found.2 + k)
  | [], _, _, _ => rfl
  | line :: above, depth, commas, k => by
    rw [readLines, readLines, readBack_add]
    rcases readBack line.reverse depth commas with ⟨before, commas'⟩ | ⟨depth', commas'⟩
    · rfl
    · exact readLines_add above depth' commas' k

/-- A text that never closes more than it opens is left at depth zero by a search that enters it at
the depth that it opens. -/
theorem readBack_covered {s : List Char} (h : ∀ t, t <+: s → t.count ')' ≤ t.count '(')
    (r : List Char) (commas : Nat) :
    readBack (s.reverse ++ r) (s.count '(' - s.count ')') commas
      = readBack r 0 (commas + outerCommas s) := by
  induction s using List.reverseRecOn generalizing commas with
  | nil => rfl
  | append_singleton s c ih =>
    have hs := h s (List.prefix_append s [c])
    have hsc := h (s ++ [c]) (List.prefix_refl _)
    have ih := ih fun t ht => h t (ht.trans (List.prefix_append s [c]))
    rw [List.reverse_append, List.reverse_singleton, List.singleton_append, List.cons_append,
      readBack_cons, outerCommas_concat]
    rw [List.count_append, List.count_append] at hsc ⊢
    by_cases hclose : c = ')'
    · subst hclose
      have hdepth : s.count '(' - (s.count ')' + 1) + 1 = s.count '(' - s.count ')' := by
        simp at hsc
        omega
      simp [hdepth, ih]
    by_cases hopen : c = '('
    · subst hopen
      have hdepth : s.count '(' + 1 - s.count ')' = s.count '(' - s.count ')' + 1 := by omega
      simp [hdepth, ih]
    have hdepth : s.count '(' - s.count ')' = 0 ↔ s.count ')' = s.count '(' := by omega
    simp only [List.count_singleton, beq_iff_eq, hclose, hopen, if_false, Nat.add_zero, hdepth]
    split_ifs with hcomma
    · rw [ih, Nat.add_right_comm, Nat.add_assoc]
    · exact ih commas

theorem readBack_balanced {s : List Char} (h : Balanced s) (r : List Char) (commas : Nat) :
    readBack (s.reverse ++ r) 0 commas = readBack r 0 (commas + outerCommas s) := by
  rw [← readBack_covered h.covered, h.settled, Nat.sub_self]

/-- A carriage return is nothing to the search. -/
theorem readBack_return (r : List Char) (depth commas : Nat) :
    readBack ('\r' :: r) depth commas = readBack r depth commas :=
  rfl

/-- Balanced text before the cursor counts its outer commas and is passed over. -/
theorem readLines_balanced {s : List Char} (h : Balanced s) (p : List Char)
    (above : List (List Char)) :
    readLines ((p ++ s) :: above) 0 0
      = (readLines (p :: above) 0 0).map fun found => (found.1, found.2 + outerCommas s) := by
  rw [← readLines_add, readLines, readLines, List.reverse_append, readBack_balanced h]

end CallSite

namespace Document

variable {doc : Document} {pos : Position} {p q : List Char} {s : String}

/-- A line that text is typed into: a carriage return at the end of the text ends the line if
nothing comes after it, and then it is not part of the line. -/
theorem dropReturn_typed {ending : List Char} (s : List Char)
    (h : dropReturn (p ++ q ++ ending) = p ++ q) :
    ∃ typed, dropReturn (p ++ s ++ q ++ ending) = p ++ typed ++ q
      ∧ (typed = s ∨ s = typed ++ ['\r'] ∧ q = []) := by
  rcases dropReturn_cases (p ++ q ++ ending) with ⟨heq, hlast⟩ | heq
  · obtain rfl : ending = [] := by
      rw [h] at heq
      exact List.self_eq_append_right.1 heq
    rw [List.append_nil] at hlast ⊢
    rcases dropReturn_cases (p ++ s ++ q) with ⟨hnew, -⟩ | hnew
    · exact ⟨s, hnew, .inl rfl⟩
    -- the new line ends in a carriage return and the old one did not, so it was typed
    · have hq : q = [] := by
        by_contra hq
        have hend := congrArg List.getLast? hnew
        rw [List.getLast?_append_of_ne_nil _ hq] at hlast hend
        exact hlast (by simpa using hend)
      subst hq
      simp only [List.append_nil, and_true] at hlast hnew ⊢
      rcases List.eq_nil_or_concat s with rfl | ⟨typed, c, rfl⟩
      · rw [List.append_nil] at hnew
        exact absurd (by rw [hnew, List.getLast?_concat]) hlast
      · rw [List.concat_eq_append, ← List.append_assoc] at hnew ⊢
        obtain ⟨htyped, hc⟩ := List.append_inj' hnew rfl
        obtain rfl : c = '\r' := by simpa using hc
        exact ⟨typed, htyped.symm, .inr rfl⟩
  · rw [h, List.append_cancel_left_eq] at heq
    subst heq
    exact ⟨s, dropReturn_append_return _, .inl rfl⟩

/-- Characters without a line feed, typed at a position, stand between what was before it and what
was after it, and every other line stays. -/
theorem exists_typed (h : doc.PartsAt pos p q) (hn : '\n' ∉ s.toList) :
    ∃ edited typed, doc.edit? ⟨⟨pos, pos⟩, s⟩ = some edited
      ∧ edited.PartsAt ⟨pos.line, pos.character + utf16Length s.toList⟩ (p ++ typed) q
      ∧ (typed = s.toList ∨ s.toList = typed ++ ['\r'])
      ∧ ∀ k, k ≠ pos.line → edited.line? k = doc.line? k := by
  obtain ⟨ending, hp, hl⟩ := exists_piece h.line
  obtain ⟨typed, hline, htyped⟩ := dropReturn_typed s.toList hl
  obtain ⟨edited, hedit, hnew, hothers⟩ :=
    exists_edit?_piece (m := []) (by simpa using hp) (by simpa using hl) hn
  rw [hline] at hnew
  refine ⟨edited, typed, (edit?_typed h).trans hedit, ⟨hnew, ?_⟩, htyped.imp_right And.left,
    fun k hk => ?_⟩
  · have hcut := (columnToByte_eq_iff.1 h.offset).insert s.toList
    refine columnToByte_eq_iff.2 (?_ : CutAt (pos.character + utf16Length s.toList) _ _)
    rcases htyped with rfl | ⟨hs, rfl⟩
    · exact hcut
    · have hfits := hcut.fits
      rw [hs, ← List.append_assoc, utf16Length_append] at hfits
      rw [hs]
      exact ⟨by omega, by simp⟩
  · rw [line?_eq, hothers k hk, ← line?_eq]

end Document

namespace CallSite

variable {doc : Document} {pos : Position} {p q line : List Char}

/-- Balanced text without a line break, typed at the cursor, leaves the call around the cursor as it
was, if there is one, and moves its argument on by the commas outside the text's parentheses. -/
theorem find_typed_balanced (hline : doc.line? pos.line = some line) (lookback : Nat) {s : String}
    (hs : Balanced s.toList) (hn : '\n' ∉ s.toList) :
    ∃ edited, doc.edit? ⟨⟨pos, pos⟩, s⟩ = some edited
      ∧ find edited ⟨pos.line, pos.character + utf16Length s.toList⟩ lookback
        = (find doc pos lookback).map fun site =>
          ⟨site.function, site.activeParameter + outerCommas s.toList⟩ := by
  obtain ⟨p, q, hparts⟩ := Document.exists_partsAt hline
  obtain ⟨edited, typed, hedit, hparts', htyped, hothers⟩ := Document.exists_typed hparts hn
  have habove : linesAbove edited pos.line lookback = linesAbove doc pos.line lookback :=
    linesAbove_congr lookback fun k hk => hothers k (Nat.ne_of_lt hk)
  have hread : readLines ((p ++ typed) :: linesAbove doc pos.line lookback) 0 0
      = readLines ((p ++ s.toList) :: linesAbove doc pos.line lookback) 0 0 := by
    rcases htyped with rfl | hs
    · rfl
    · have hback : (p ++ s.toList).reverse = '\r' :: (p ++ typed).reverse := by simp [hs]
      rw [readLines, readLines, hback, readBack_return]
  refine ⟨edited, hedit, ?_⟩
  rw [find_of_window (window_of_partsAt hparts' lookback), habove, hread,
    find_of_window (window_of_partsAt hparts lookback), readLines_balanced hs]
  rcases readLines (p :: linesAbove doc pos.line lookback) 0 0 with _ | ⟨before, commas⟩
  · rfl
  · simp only [Option.map_some, Option.bind_some, Option.map_map]
    rfl

/-- The cursor stands between the halves of a surrogate pair, and the text typed before that
character holds a call of its own and a letter of two bytes. -/
theorem find_typed_balanced_nested :
    let doc := Document.ofText "mix(😀, b)"
    let s := "f(a, b), π,"
    Balanced s.toList ∧ '\n' ∉ s.toList ∧ find doc ⟨0, 5⟩ defaultLookback = some ⟨"mix", 0⟩
      ∧ ∃ edited, doc.edit? ⟨⟨⟨0, 5⟩, ⟨0, 5⟩⟩, s⟩ = some edited
        ∧ find edited ⟨0, 16⟩ defaultLookback = some ⟨"mix", 2⟩ := by
  intro doc s
  have hs : Balanced s.toList := by decide
  have hn : '\n' ∉ s.toList := by decide
  have hfind : find doc ⟨0, 5⟩ defaultLookback = some ⟨"mix", 0⟩ := by decide
  obtain ⟨edited, hedit, hfound⟩ := @find_typed_balanced doc ⟨0, 5⟩ "mix(😀, b)".toList (by decide)
    defaultLookback s hs hn
  have hcolumns : utf16Length s.toList = 11 := by decide
  have hcommas : outerCommas s.toList = 2 := by decide
  rw [hfind, hcolumns, hcommas] at hfound
  exact ⟨hs, hn, hfind, edited, hedit, hfound⟩

end CallSite

end GlslAssist
