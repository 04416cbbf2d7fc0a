import GlslAssist.Proofs.IdentifierRuns

/-!
# The identifier at the end of a text

An identifier begins with an ASCII letter or an underscore, and letters, digits and underscores
follow. The one that `trailingIdentifier` reads off the end of a text is the longest of all endings
of the text that are identifiers, once the blanks at the end are left aside, and it reads none only
where no ending is one (`trailingIdentifier_longest`). Every such ending ends the run of identifier
characters, and in it the part that is left without leading digits (`suffix_of_isIdentifier`).

So what stands before a character that no identifier has does not count, and blanks after the text
do not either.
-/

namespace GlslAssist.Text

def IsIdentifier : List Char → Prop
  | [] => False
  | c :: rest => (c.isAlpha = true ∨ c = '_') ∧ ∀ d ∈ rest, d.isAlphanum = true ∨ d = '_'

/-- `kept` is the text without the blanks at its end. -/
structure Trims (text kept : List Char) : Prop where
  split : ∃ blanks, text = kept ++ blanks ∧ ∀ c ∈ blanks, isBlank c = true
  last : ∀ c ∈ kept.getLast?, isBlank c = false

structure LongestIdentifier (text name : List Char) : Prop where
  ending : name <:+ text
  identifier : IsIdentifier name
  longest : ∀ s, s <:+ text → IsIdentifier s → s.length ≤ name.length

/-! ## Trimming -/

theorem trimEnd_append {text blanks : List Char} (h : ∀ c ∈ blanks, isBlank c = true) :
    trimEnd (text ++ blanks) = trimEnd text := by
  rw [trimEnd, trimEnd, List.reverse_append,
    List.dropWhile_append_of_pos fun c hc => h c (List.mem_reverse.1 hc)]

theorem trims_iff {text kept : List Char} : Trims text kept ↔ trimEnd text = kept := by
  constructor
  · rintro ⟨⟨blanks, rfl, hblanks⟩, hlast⟩
    rw [trimEnd_append hblanks]
    refine List.rdropWhile_eq_self_iff.2 fun hne => ?_
    rw [hlast _ (List.getLast?_eq_getLast_of_ne_nil hne)]
    decide
  · rintro rfl
    refine ⟨⟨text.rtakeWhile isBlank, List.rdropWhile_append_rtakeWhile.symm,
      fun _ => List.mem_rtakeWhile_imp⟩, fun c hc => ?_⟩
    obtain ⟨hne, rfl⟩ := List.mem_getLast?_eq_getLast hc
    exact Bool.eq_false_iff.2 (List.rdropWhile_last_not isBlank text hne)

/-- Text in front of what is not blank throughout stays in front. -/
theorem Trims.prepend {text kept : List Char} (h : Trims text kept) (hne : kept ≠ [])
    (lead : List Char) : Trims (lead ++ text) (lead ++ kept) := by
  obtain ⟨blanks, rfl, hblanks⟩ := h.split
  refine ⟨⟨blanks, (List.append_assoc _ _ _).symm, hblanks⟩, fun c hc => h.last c ?_⟩
  rwa [List.getLast?_append_of_ne_nil _ hne] at hc

/-! ## Endings -/

theorem isDigit_eq_false_iff {c : Char} (h : isIdentChar c = true) :
    c.isDigit = false ↔ c.isAlpha = true ∨ c = '_' := by
  have hall : ∀ n < 128, isIdentChar (Char.ofNat n) = true →
      ((Char.ofNat n).isDigit = false ↔ (Char.ofNat n).isAlpha = true ∨ Char.ofNat n = '_') := by
    decide
  have hc := hall c.toNat (ascii_of_isIdentChar h)
  rw [Char.ofNat_toNat] at hc
  exact hc h

theorem isIdentifier_cons_iff {c : Char} {rest : List Char} :
    IsIdentifier (c :: rest)
      ↔ c.isDigit = false ∧ ∀ d ∈ c :: rest, isIdentChar d = true := by
  have hident : ∀ d : Char, isIdentChar d = true ↔ d.isAlphanum = true ∨ d = '_' := by
    simp [isIdentChar]
  simp only [IsIdentifier, ← hident, List.forall_mem_cons]
  constructor
  · rintro ⟨hc, hrest⟩
    have hchar : isIdentChar c = true :=
      (hident c).2 (hc.imp (fun h => by simp [Char.isAlphanum, h]) id)
    exact ⟨(isDigit_eq_false_iff hchar).2 hc, hchar, hrest⟩
  · rintro ⟨hdigit, hchar, hrest⟩
    exact ⟨(isDigit_eq_false_iff hchar).1 hdigit, hrest⟩

theorem forall_isIdentChar {s : List Char} (h : IsIdentifier s) :
    ∀ c ∈ s, isIdentChar c = true := by
  rcases s with _ | ⟨c, rest⟩
  · exact h.elim
  · exact (isIdentifier_cons_iff.1 h).2

theorem suffix_trailingRun {text s : List Char} (h : s <:+ text)
    (hs : ∀ c ∈ s, isIdentChar c = true) : s <:+ trailingRun text := by
  obtain ⟨before, rfl⟩ := h
  rw [trailingRun, List.reverse_append,
    List.takeWhile_append_of_pos fun c hc => hs c (List.mem_reverse.1 hc), List.reverse_append,
    List.reverse_reverse]
  exact List.suffix_append _ _

/-- An ending that is an identifier takes part in no digit that leads the run. -/
theorem suffix_of_isIdentifier {text s : List Char} (h : s <:+ text) (hs : IsIdentifier s) :
    s <:+ (trailingRun text).dropWhile Char.isDigit := by
  rcases s with _ | ⟨c, rest⟩
  · exact hs.elim
  · obtain ⟨hdigit, hident⟩ := isIdentifier_cons_iff.1 hs
    obtain ⟨before, hrun⟩ := suffix_trailingRun h hident
    rw [← hrun, List.dropWhile_append]
    split
    · exact ⟨[], (List.dropWhile_cons_of_neg (by simp [hdigit])).symm⟩
    · exact List.suffix_append _ _

theorem isIdentifier_of_dropWhile {text name : List Char}
    (h : (trailingRun text).dropWhile Char.isDigit = name) (hne : name ≠ []) :
    IsIdentifier name := by
  rcases name with _ | ⟨c, rest⟩
  · exact absurd rfl hne
  · refine isIdentifier_cons_iff.2 ⟨?_, fun d hd => ?_⟩
    · have := List.head?_dropWhile_not Char.isDigit (trailingRun text)
      rw [h] at this
      simpa using this
    · rw [← h] at hd
      exact List.mem_rtakeWhile_imp ((List.dropWhile_suffix Char.isDigit).subset hd)

theorem longestIdentifier_iff {text name : List Char} :
    LongestIdentifier text name
      ↔ (trailingRun text).dropWhile Char.isDigit = name ∧ name ≠ [] := by
  constructor
  · rintro ⟨hending, hident, hlongest⟩
    have hsuffix := suffix_of_isIdentifier hending hident
    have hne : name ≠ [] := by
      rintro rfl
      exact hident
    have hrest : (trailingRun text).dropWhile Char.isDigit <:+ text :=
      (List.dropWhile_suffix _).trans (List.rtakeWhile_suffix isIdentChar text)
    have hle := hlongest _ hrest (isIdentifier_of_dropWhile rfl (hsuffix.ne_nil hne))
    exact ⟨(hsuffix.eq_of_length_le hle).symm, hne⟩
  · rintro ⟨rfl, hne⟩
    exact ⟨(List.dropWhile_suffix _).trans (List.rtakeWhile_suffix isIdentChar text),
      isIdentifier_of_dropWhile rfl hne, fun s hs hident =>
        (suffix_of_isIdentifier hs hident).length_le⟩

theorem trailingIdentifier_eq_some_iff {text name : List Char} :
    trailingIdentifier text = some name ↔ LongestIdentifier (trimEnd text) name := by
  rw [longestIdentifier_iff, trailingIdentifier]
  split
  · next h => simp [h]
  · next hne =>
    rw [Option.some.injEq]
    exact ⟨fun h => ⟨h, h ▸ hne⟩, And.left⟩

theorem trailingIdentifier_eq_none_iff {text : List Char} :
    trailingIdentifier text = none ↔ ∀ s, s <:+ trimEnd text → ¬ IsIdentifier s := by
  constructor
  · intro hnone s hs hident
    have hne := (suffix_of_isIdentifier hs hident).ne_nil (by rintro rfl; exact hident)
    have hsome := trailingIdentifier_eq_some_iff.2 (longestIdentifier_iff.2 ⟨rfl, hne⟩)
    rw [hnone] at hsome
    cases hsome
  · intro hnone
    rw [Option.eq_none_iff_forall_ne_some]
    intro name hsome
    have hlongest := trailingIdentifier_eq_some_iff.1 hsome
    exact hnone name hlongest.ending hlongest.identifier

/-- What stands before a character that no identifier has does not count. -/
theorem longestIdentifier_append_iff {lead text name : List Char}
    (h : ∃ c ∈ text, isIdentChar c = false) :
    LongestIdentifier (lead ++ text) name ↔ LongestIdentifier text name := by
  obtain ⟨c, hc, hother⟩ := h
  -- an identifier that reached into `lead` would have all of `text` in it
  have hwithin : ∀ s, IsIdentifier s → (s <:+ lead ++ text ↔ s <:+ text) := by
    refine fun s hs => ⟨fun hending => ?_, List.suffix_append_of_suffix⟩
    rcases List.suffix_or_suffix_of_suffix hending (List.suffix_append lead text) with h | h
    · exact h
    · have hident := forall_isIdentChar hs c (h.subset hc)
      rw [hother] at hident
      cases hident
  constructor
  · rintro ⟨hending, hident, hlongest⟩
    exact ⟨(hwithin name hident).1 hending, hident, fun s hs hs' =>
      hlongest s ((hwithin s hs').2 hs) hs'⟩
  · rintro ⟨hending, hident, hlongest⟩
    exact ⟨(hwithin name hident).2 hending, hident, fun s hs hs' =>
      hlongest s ((hwithin s hs').1 hs) hs'⟩

/-- The scan over bytes stops where the run of characters begins. -/
theorem slice_identStart (text : List Char) :
    slice text (identStart text (utf8Length text)) (utf8Length text) = trailingRun text := by
  have hstart := identStart_append text []
  have hcut := slice_append (text.rdropWhile isIdentChar) (text.rtakeWhile isIdentChar) []
  rw [List.append_nil] at hstart
  rw [List.append_nil, List.rdropWhile_append_rtakeWhile, utf8Length_rdropWhile] at hcut
  rw [hstart, hcut]
  rfl

/-- The identifier that a text ends in, blanks after it left aside, is the longest of its endings
that are identifiers, and there is none only if no ending is one. Blanks after the text change
nothing, and nothing does that is put before a text with a character that no identifier has. The run
that leading digits are taken off is the one that a scan over the bytes finds. -/
theorem trailingIdentifier_longest (text : List Char) :
    (∀ name, trailingIdentifier text = some name
        ↔ ∃ kept, Trims text kept ∧ LongestIdentifier kept name)
      ∧ (trailingIdentifier text = none
        ↔ ∃ kept, Trims text kept ∧ ∀ s, s <:+ kept → ¬ IsIdentifier s)
      ∧ (∀ blanks, (∀ c ∈ blanks, isBlank c = true) →
        trailingIdentifier (text ++ blanks) = trailingIdentifier text)
      ∧ (∀ kept lead, Trims text kept → (∃ c ∈ kept, isIdentChar c = false) →
        trailingIdentifier (lead ++ text) = trailingIdentifier text)
      ∧ ∀ kept, slice kept (identStart kept (utf8Length kept)) (utf8Length kept)
        = trailingRun kept := by
  refine ⟨fun name => ?_, ?_, fun blanks hblanks => ?_, fun kept lead htrims hother => ?_,
    slice_identStart⟩
  · simp only [trims_iff, exists_eq_left', trailingIdentifier_eq_some_iff]
  · simp only [trims_iff, exists_eq_left', trailingIdentifier_eq_none_iff]
  · rw [trailingIdentifier, trimEnd_append hblanks, trailingIdentifier]
  · obtain ⟨c, hc, -⟩ := id hother
    have hlead := trims_iff.1 (htrims.prepend (List.ne_nil_of_mem hc) lead)
    refine Option.ext fun name => ?_
    rw [trailingIdentifier_eq_some_iff, trailingIdentifier_eq_some_iff, hlead,
      trims_iff.1 htrims, longestIdentifier_append_iff hother]

/-- Digits that lead the run are no part of the name, and digits inside it are. A wide blank after
it is left aside, and what stands before the star does not count. -/
theorem trailingIdentifier_longest_digits :
    let text := "é*1x2y".toList
    let name := "x2y".toList
    LongestIdentifier text name ∧ trailingIdentifier text = some name
      ∧ trailingIdentifier (text ++ "\u3000 ".toList) = some name
      ∧ trailingIdentifier ("mix".toList ++ text) = some name
      ∧ ∀ s, s <:+ "a+42".toList → ¬ IsIdentifier s := by
  intro text name
  have hname : trailingIdentifier text = some name := by decide
  have htrims : Trims text text := trims_iff.2 (by decide)
  have hblanks : ∀ c ∈ "\u3000 ".toList, isBlank c = true := List.all_eq_true.1 (by decide)
  have hstar : '*' ∈ text := List.mem_of_getElem? (i := 1) rfl
  obtain ⟨hsome, -, hblank, hlead, -⟩ := trailingIdentifier_longest text
  obtain ⟨kept, hkept, hlongest⟩ := (hsome name).1 hname
  obtain ⟨-, hnone, -⟩ := trailingIdentifier_longest "a+42".toList
  obtain ⟨number, hnumber, hendings⟩ := hnone.1 (by decide)
  have htext : text = kept := (trims_iff.1 htrims).symm.trans (trims_iff.1 hkept)
  have hdigits : number = "a+42".toList := (trims_iff.1 hnumber).symm.trans (by decide)
  refine ⟨htext ▸ hlongest, hname, (hblank _ hblanks).trans hname,
    (hlead text "mix".toList htrims ⟨'*', hstar, by decide⟩).trans hname, hdigits ▸ hendings⟩

end GlslAssist.Text
