import GlslAssist.Proofs.Lookup
import GlslAssist.Proofs.Rounding
import GlslAssist.Proofs.Tokens

/-!
# Narrowing while typing

What is typed of a name is a part of it from its start, and grows with the cursor along the run; a
label that contains more contains less. So along a run the candidates that are left only get fewer,
they stay in the order of the ranking, and a candidate that is spelled like the whole run is never
lost (`narrowed_along_run`).
-/

namespace GlslAssist

open Text

namespace Text

theorem occursIn_iff {needle : List Char} : ∀ {s : List Char},
    occursIn needle s = true ↔ needle <:+: s
  | [] => by simp [occursIn]
  | c :: s => by
    have ih : occursIn needle s = true ↔ needle <:+: s := occursIn_iff
    rw [occursIn, Bool.or_eq_true, List.isPrefixOf_iff_prefix, ih, List.infix_cons_iff]

/-- The texts differ at most in the case of ASCII letters. -/
def SameLetters (s t : String) : Prop :=
  s.toList.map Char.toLower = t.toList.map Char.toLower

instance (s t : String) : Decidable (SameLetters s t) :=
  inferInstanceAs (Decidable (_ = _))

end Text

namespace Candidate

variable {c : Candidate} {typed typed' : String}

theorem matchesTyped_iff : c.matchesTyped typed = true
    ↔ typed.toList.map Char.toLower <:+: c.label.toList.map Char.toLower := by
  rw [matchesTyped, occursIn_iff]

theorem matchesTyped_of_isPrefix (h : typed.toList <+: typed'.toList)
    (hc : c.matchesTyped typed' = true) : c.matchesTyped typed = true := by
  rw [matchesTyped_iff] at hc ⊢
  exact (h.map Char.toLower).isInfix.trans hc

theorem matchesTyped_congr (h : SameLetters typed typed') :
    c.matchesTyped typed = c.matchesTyped typed' := by
  rw [matchesTyped, matchesTyped, h]

end Candidate

namespace Document

variable {doc : Document} {n column column' : Nat} {line a m b : List Char}

/-- What is typed of a run at a column is the part of it before the column's offset. -/
theorem exists_typed_of_touchedRun (hline : doc.line? n = some line)
    (h : TouchedRun line column a m b) : ∃ l, l <+: m
      ∧ columnToByte line column = utf8Length (a ++ l)
      ∧ (doc.wordUntil ⟨n, column⟩).text = String.ofList l := by
  obtain ⟨l, r, rfl, hcut, huntil⟩ := wordUntil_of_touchedRun hline h
  refine ⟨l, List.prefix_append l r, ?_, ?_⟩
  · rw [h.line_eq, ← columnToByte_eq_iff.2 hcut]
    simp only [List.append_assoc]
  · rw [huntil]

/-- Along a run, a smaller offset has less of the run typed. -/
theorem typed_isPrefix_of_le (hline : doc.line? n = some line) (h : TouchedRun line column a m b)
    (h' : TouchedRun line column' a m b) (hle : columnToByte line column ≤ columnToByte line column') :
    (doc.wordUntil ⟨n, column⟩).text.toList <+: (doc.wordUntil ⟨n, column'⟩).text.toList := by
  obtain ⟨l, hl, hoffset, htyped⟩ := exists_typed_of_touchedRun hline h
  obtain ⟨l', hl', hoffset', htyped'⟩ := exists_typed_of_touchedRun hline h'
  rw [hoffset, hoffset', utf8Length_append, utf8Length_append] at hle
  rw [htyped, htyped', String.toList_ofList, String.toList_ofList]
  exact isPrefix_of_utf8Length_le hl hl' (by omega)

end Document

namespace Completion

variable {doc : Document} {n column : Nat} {line a m b : List Char}

theorem mem_narrowed_iff {completion : Completion} {c : Candidate} :
    c ∈ completion.narrowed ↔ c ∈ completion.items
      ∧ completion.typed.toList.map Char.toLower <:+: c.label.toList.map Char.toLower := by
  rw [narrowed, List.mem_filter, Candidate.matchesTyped_iff]

/-- At a column of the run `m`, the part of it before the column is typed, and the candidates left are
those whose label contains this part, letters of either case taken as one. They are ranked as before:
all of them at the start of the run, and further along it some of those that are left here. A
candidate spelled like the whole run is among them. Only the letters typed matter, wherever it is. -/
theorem narrowed_along_run (registry : Registry) (hline : doc.line? n = some line)
    (h : TouchedRun line column a m b) :
    let here := find registry doc ⟨n, column⟩
    (∃ l, l <+: m ∧ columnToByte line column = utf8Length (a ++ l) ∧ here.typed = String.ofList l)
      ∧ (∀ c, c ∈ here.narrowed ↔ c ∈ Candidate.ranked registry
        ∧ here.typed.toList.map Char.toLower <:+: c.label.toList.map Char.toLower)
      ∧ here.narrowed.Sublist (Candidate.ranked registry)
      ∧ (columnToByte line column = utf8Length a → here.narrowed = Candidate.ranked registry)
      ∧ (∀ column', TouchedRun line column' a m b →
        columnToByte line column ≤ columnToByte line column' →
          (find registry doc ⟨n, column'⟩).narrowed.Sublist here.narrowed)
      ∧ (∀ c ∈ Candidate.ranked registry, SameLetters c.label (String.ofList m) → c ∈ here.narrowed)
      ∧ ∀ doc doc' pos pos',
        SameLetters (find registry doc pos).typed (find registry doc' pos').typed →
          (find registry doc pos).narrowed = (find registry doc' pos').narrowed := by
  intro here
  have hmem (c : Candidate) : c ∈ here.narrowed ↔ c ∈ Candidate.ranked registry
      ∧ here.typed.toList.map Char.toLower <:+: c.label.toList.map Char.toLower := mem_narrowed_iff
  obtain ⟨l, hl, hoffset, htyped⟩ := Document.exists_typed_of_touchedRun hline h
  have htyped : here.typed = String.ofList l := htyped
  refine ⟨⟨l, hl, hoffset, htyped⟩, hmem, List.filter_sublist, fun hstart => ?_,
    fun column' h' hle => ?_, fun c hc hsame => ?_, fun doc doc' pos pos' hsame => ?_⟩
  · rw [hoffset, utf8Length_append] at hstart
    obtain rfl : l = [] := utf8Length_eq_zero_iff.1 (by omega)
    refine List.filter_eq_self.2 fun c _ => ?_
    rw [Candidate.matchesTyped_iff, htyped]
    exact List.nil_infix
  · have hprefix := Document.typed_isPrefix_of_le hline h h' hle
    exact List.monotone_filter_right _ fun c => Candidate.matchesTyped_of_isPrefix hprefix
  · rw [hmem, htyped, hsame, String.toList_ofList, String.toList_ofList]
    exact ⟨hc, (hl.map Char.toLower).isInfix⟩
  · exact List.filter_congr fun c _ => Candidate.matchesTyped_congr hsame

/-- A uniform spelled in the other case than the text: it is left from the start of the name to its
end. -/
theorem narrowed_along_run_other_case :
    let registry : Registry := ⟨[⟨"u_Seed", "float", ""⟩]⟩
    let doc := Document.ofText "é U_seed;"
    let c := Candidate.ofSymbol (.uniform ⟨"u_Seed", "float", ""⟩)
    let left (column : Nat) := (find registry doc ⟨0, column⟩).narrowed
    doc.line? 0 = some "é U_seed;".toList
      ∧ left 2 = Candidate.ranked registry ∧ (left 8).Sublist (left 4) ∧ c ∈ left 4 ∧ c ∈ left 8 := by
  intro registry doc c left
  have hline : doc.line? 0 = some "é U_seed;".toList := by decide
  have hrun : IsRun ['é', ' '] "U_seed".toList [';'] :=
    ⟨List.all_eq_true.1 (by decide), by rintro c ⟨⟩; decide, by rintro c ⟨⟩; decide⟩
  have hstart : TouchedRun "é U_seed;".toList 2 _ _ _ := hrun.touched (Nat.zero_le _)
  have hinner : TouchedRun "é U_seed;".toList 4 _ _ _ :=
    hrun.touched (by decide : 2 ≤ "U_seed".toList.length)
  have hstop : TouchedRun "é U_seed;".toList 8 _ _ _ :=
    hrun.touched (by decide : 6 ≤ "U_seed".toList.length)
  have hc : c ∈ Candidate.ranked registry := Candidate.mem_ranked_of_mem_uniforms (by decide)
  obtain ⟨-, -, -, hall, -, -, -⟩ := narrowed_along_run registry hline hstart
  obtain ⟨-, -, -, -, hfewer, hkept, -⟩ := narrowed_along_run registry hline hinner
  obtain ⟨-, -, -, -, -, hkept', -⟩ := narrowed_along_run registry hline hstop
  exact ⟨hline, hall (by decide), hfewer 8 hstop (by decide), hkept c hc (by decide),
    hkept' c hc (by decide)⟩

end Completion

end GlslAssist
