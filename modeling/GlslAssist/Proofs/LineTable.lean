import GlslAssist.Proofs.Lines

/-!
# The line table

The lines of a document are the pieces of its text between line feeds, each without one carriage
return at its end, and the table of line starts holds zero and the offset after each line feed, in
order (`lines_eq_split`). So lines that hold no line feed and end in no carriage return come back from
the text that joins them, with either ending.
-/

namespace GlslAssist

open Text

theorem length_splitOn : ∀ text : List Char, (text.splitOn '\n').length = text.count '\n' + 1
  | [] => by simp
  | c :: text => by
    have ih := length_splitOn text
    rw [List.splitOn_cons_eq_if_modifyHead, List.count_cons]
    split_ifs
    · rw [List.length_cons, ih]
    · rw [List.length_modifyHead, ih]

namespace Document

/-! ## Line starts -/

theorem mem_startsAfter_iff {o : Nat} : ∀ {text : List Char} {offset : Nat},
    o ∈ startsAfter offset text ↔ ∃ p q, text = p ++ '\n' :: q ∧ o = offset + utf8Length p + 1
  | [], offset => by simp [startsAfter]
  | c :: text, offset => by
    have ih : o ∈ startsAfter (offset + c.utf8Size) text
        ↔ ∃ p q, text = p ++ '\n' :: q ∧ o = offset + c.utf8Size + utf8Length p + 1 :=
      mem_startsAfter_iff
    -- a line feed of the text is `c` itself, with nothing before it, or one of the rest
    have hcons : (∃ p q, c :: text = p ++ '\n' :: q ∧ o = offset + utf8Length p + 1)
        ↔ c = '\n' ∧ o = offset + 1
          ∨ ∃ p q, text = p ++ '\n' :: q ∧ o = offset + c.utf8Size + utf8Length p + 1 := by
      constructor
      · rintro ⟨p, q, heq, ho⟩
        rcases p with _ | ⟨d, p⟩
        · obtain ⟨rfl, rfl⟩ := List.cons.inj heq
          exact .inl ⟨rfl, ho⟩
        · obtain ⟨rfl, rfl⟩ := List.cons.inj heq
          exact .inr ⟨p, q, rfl, by rw [ho, utf8Length_cons]; omega⟩
      · rintro (⟨rfl, ho⟩ | ⟨p, q, rfl, ho⟩)
        · exact ⟨[], text, rfl, ho⟩
        · exact ⟨c :: p, q, rfl, by rw [ho, utf8Length_cons]; omega⟩
    rw [hcons, ← ih, startsAfter]
    split_ifs with hc
    · subst hc
      simp [show '\n'.utf8Size = 1 by decide]
    · simp [hc]

theorem lt_of_mem_startsAfter {o offset : Nat} {text : List Char} (h : o ∈ startsAfter offset text) :
    offset < o := by
  obtain ⟨p, q, -, rfl⟩ := mem_startsAfter_iff.1 h
  omega

theorem pairwise_startsAfter : ∀ (text : List Char) (offset : Nat),
    (startsAfter offset text).Pairwise (· < ·)
  | [], _ => List.Pairwise.nil
  | c :: text, offset => by
    have ih := pairwise_startsAfter text (offset + c.utf8Size)
    rw [startsAfter]
    split_ifs
    · exact List.pairwise_cons.2 ⟨fun o => lt_of_mem_startsAfter, ih⟩
    · exact ih

/-! ## Joined lines -/

theorem dropReturn_of_getLast?_ne {s : List Char} (h : s.getLast? ≠ some '\r') :
    dropReturn s = s :=
  if_neg h

theorem dropReturn_eq_iff {piece line : List Char} : dropReturn piece = line
    ↔ piece = line ++ ['\r'] ∨ piece = line ∧ line.getLast? ≠ some '\r' := by
  constructor
  · rintro rfl
    rcases dropReturn_cases piece with ⟨heq, hlast⟩ | heq
    · exact .inr (by rw [heq]; exact ⟨rfl, hlast⟩)
    · exact .inl heq
  · rintro (rfl | ⟨rfl, hlast⟩)
    · exact dropReturn_append_return line
    · exact dropReturn_of_getLast?_ne hlast

/-- The lines, each but the last with a carriage return after it. -/
def returned : List (List Char) → List (List Char)
  | [] => []
  | [s] => [s]
  | s :: t :: ls => (s ++ ['\r']) :: returned (t :: ls)

theorem returned_ne_nil (s : List Char) : ∀ ls : List (List Char), returned (s :: ls) ≠ []
  | [] => nofun
  | _ :: _ => nofun

theorem intercalate_returned : ∀ ls : List (List Char),
    ['\n'].intercalate (returned ls) = ['\r', '\n'].intercalate ls
  | [] => rfl
  | [s] => rfl
  | s :: t :: ls => by
    have ih := intercalate_returned (t :: ls)
    rw [returned, List.intercalate_cons_of_ne_nil (returned_ne_nil t ls), ih,
      List.intercalate_cons_cons]
    simp

theorem map_dropReturn {ls : List (List Char)} (h : ∀ s ∈ ls, s.getLast? ≠ some '\r') :
    ls.map dropReturn = ls :=
  (List.map_congr_left fun s hs => dropReturn_of_getLast?_ne (h s hs)).trans (List.map_id ls)

theorem map_dropReturn_returned : ∀ {ls : List (List Char)}, (∀ s ∈ ls, s.getLast? ≠ some '\r') →
    (returned ls).map dropReturn = ls
  | [], _ => rfl
  | [s], h => map_dropReturn h
  | s :: t :: ls, h => by
    have ih := map_dropReturn_returned fun u hu => h u (List.mem_cons_of_mem s hu)
    rw [returned, List.map_cons, dropReturn_append_return, ih]

theorem not_mem_returned : ∀ {ls : List (List Char)}, (∀ s ∈ ls, '\n' ∉ s) →
    ∀ s ∈ returned ls, '\n' ∉ s
  | [], _ => nofun
  | [s], h => h
  | s :: t :: ls, h => by
    have ih := not_mem_returned fun u hu => h u (List.mem_cons_of_mem s hu)
    rw [returned]
    intro u hu
    rcases List.mem_cons.1 hu with rfl | hu
    · simp [h s]
    · exact ih u hu

/-- Pieces joined by line feeds are the lines of the text, but for a carriage return at their ends. -/
theorem line?_intercalate {ls : List (List Char)} (hne : ls ≠ []) (h : ∀ s ∈ ls, '\n' ∉ s) (n : Nat) :
    line? ⟨['\n'].intercalate ls⟩ n = (ls.map dropReturn)[n]? := by
  rw [line?_eq, pieces, List.splitOn_intercalate '\n' h hne, List.getElem?_map]

theorem line?_joined {ls : List (List Char)} (hne : ls ≠ []) (hfeed : ∀ s ∈ ls, '\n' ∉ s)
    (hreturn : ∀ s ∈ ls, s.getLast? ≠ some '\r') (n : Nat) :
    line? ⟨['\n'].intercalate ls⟩ n = ls[n]?
      ∧ line? ⟨['\r', '\n'].intercalate ls⟩ n = ls[n]? := by
  obtain ⟨s, rest, rfl⟩ := List.exists_cons_of_ne_nil hne
  rw [← intercalate_returned, line?_intercalate hne hfeed,
    line?_intercalate (returned_ne_nil s rest) (not_mem_returned hfeed), map_dropReturn hreturn,
    map_dropReturn_returned hreturn]
  exact ⟨rfl, rfl⟩

/-- A line is found wherever the text, cut at its line feeds, has a piece, and is this piece without
one carriage return at its end. The table holds zero and the offset after each line feed, in
ascending order. What lines are joined by line feeds, with carriage returns or without, come back. -/
theorem lines_eq_split (text : String) :
    let doc := ofText text
    (∀ n, doc.line? n = none ↔ text.toList.count '\n' + 1 ≤ n)
      ∧ (∀ n line, doc.line? n = some line ↔ ∃ piece, (text.toList.splitOn '\n')[n]? = some piece
        ∧ (piece = line ++ ['\r'] ∨ piece = line ∧ line.getLast? ≠ some '\r'))
      ∧ doc.lineStarts.head? = some 0
      ∧ doc.lineStarts.Pairwise (· < ·)
      ∧ (∀ o, o ∈ doc.lineStarts
        ↔ o = 0 ∨ ∃ p q, text.toList = p ++ '\n' :: q ∧ o = utf8Length p + 1)
      ∧ ∀ ls : List String, ls ≠ [] →
        (∀ s ∈ ls, '\n' ∉ s.toList ∧ s.toList.getLast? ≠ some '\r') → ∀ n,
          (ofText ("\n".intercalate ls)).line? n = (ls[n]?).map String.toList
            ∧ (ofText ("\r\n".intercalate ls)).line? n = (ls[n]?).map String.toList := by
  intro doc
  refine ⟨fun n => ?_, fun n line => ?_, rfl, ?_, fun o => ?_, fun ls hne h n => ?_⟩
  · rw [line?_eq, Option.map_eq_none_iff, List.getElem?_eq_none_iff, ← length_splitOn]
    rfl
  · rw [line?_eq_some_iff]
    exact exists_congr fun piece => and_congr_right fun _ => dropReturn_eq_iff
  · exact List.pairwise_cons.2 ⟨fun o => lt_of_mem_startsAfter, pairwise_startsAfter _ 0⟩
  · rw [lineStarts, List.mem_cons, mem_startsAfter_iff]
    simp only [Nat.zero_add]
    rfl
  · have hfeed : ∀ s ∈ ls.map String.toList, '\n' ∉ s := List.forall_mem_map.2 fun s hs => (h s hs).1
    have hreturn : ∀ s ∈ ls.map String.toList, s.getLast? ≠ some '\r' :=
      List.forall_mem_map.2 fun s hs => (h s hs).2
    rw [← List.getElem?_map, ofText, ofText, String.toList_intercalate, String.toList_intercalate]
    exact line?_joined (by simpa using hne) hfeed hreturn n

/-- Of two carriage returns before a line feed one belongs to the line. Lines with a return inside,
with nothing in them and with a letter of two bytes come back from their text. -/
theorem lines_eq_split_returns :
    let doc := ofText "a\r\r\nb"
    let ls := ["a\rb", "", "é"]
    let joined := ofText ("\r\n".intercalate ls)
    doc.line? 0 = some "a\r".toList ∧ 4 ∈ doc.lineStarts
      ∧ ls ≠ [] ∧ (∀ s ∈ ls, '\n' ∉ s.toList ∧ s.toList.getLast? ≠ some '\r')
      ∧ joined.line? 0 = some "a\rb".toList ∧ joined.line? 2 = some "é".toList
      ∧ joined.line? 3 = none := by
  intro doc ls joined
  obtain ⟨-, hline, -, -, hstarts, hjoined⟩ := lines_eq_split "a\r\r\nb"
  have hne : ls ≠ [] := by decide
  have hls : ∀ s ∈ ls, '\n' ∉ s.toList ∧ s.toList.getLast? ≠ some '\r' := by decide
  have hback (n : Nat) : joined.line? n = (ls[n]?).map String.toList := (hjoined ls hne hls n).2
  exact ⟨(hline 0 _).2 ⟨"a\r\r".toList, by decide, .inl (by decide)⟩,
    (hstarts 4).2 (.inr ⟨"a\r\r".toList, "b".toList, by decide, by decide⟩), hne, hls, hback 0,
    hback 2, hback 3⟩

end Document

end GlslAssist
