import GlslAssist.Hover
import GlslAssist.Proofs.Lookup
import GlslAssist.Proofs.Tokens

/-!
# Hover on a token

A hover is shown exactly where the identifier run that touches the cursor is a name of some function,
built-in variable, uniform, type or keyword. It shows what the name means over all of the run, and is
the same wherever on the run the cursor stands (`find_on_token`).
-/

namespace GlslAssist

open Text

namespace Registry

variable {r : Registry} {name : String} {sym : Symbol}

theorem Means.name_eq (h : r.Means name sym) : sym.name = name := by
  obtain ⟨_, _, _, -, -, hlast⟩ := h
  exact hlast.1

theorem Means.space_ne_snippet (h : r.Means name sym) : sym.space ≠ .snippet := by
  obtain ⟨before, space, after, hp, -, hlast⟩ := h
  have hspace : space ∈ [Namespace.function, .builtin, .uniform, .type, .keyword] := by
    rw [hp]
    simp
  rw [space_of_mem_table hlast.mem]
  rintro rfl
  exact absurd hspace (by decide)

/-- A name means something whenever one of the five namespaces has it. -/
theorem exists_means_iff :
    (∃ sym, r.Means name sym)
      ↔ ∃ space ∈ [Namespace.function, .builtin, .uniform, .type, .keyword],
          ∃ sym ∈ r.table space, sym.name = name := by
  constructor
  · rintro ⟨sym, before, space, after, hp, -, hlast⟩
    exact ⟨space, by simp [hp], sym, hlast.mem, hlast.1⟩
  · rintro ⟨space, hspace, sym, hsym, rfl⟩
    obtain ⟨found, hfound⟩ := exists_resolve hsym hspace
    exact ⟨found, resolve_eq_some_iff.1 hfound⟩

end Registry

namespace Hover

theorem find_of_touchedRun {registry : Registry} {doc : Document} {n column : Nat}
    {line a m b : List Char} (hline : doc.line? n = some line)
    (h : TouchedRun line column a m b) :
    find registry doc ⟨n, column⟩ = if m = [] then none else
      (registry.resolve (String.ofList m)).map fun sym => ⟨sym, render sym, spanOf n a m⟩ := by
  rw [find, Document.wordAt_of_touchedRun hline h]
  split_ifs
  · rfl
  · rfl

/-- A hover shows the meaning of the identifier run that touches the position, and nothing else. -/
theorem find_eq_some_iff_touched {registry : Registry} {doc : Document} {n column : Nat} {h : Hover} :
    find registry doc ⟨n, column⟩ = some h ↔ ∃ line a m b, doc.line? n = some line
      ∧ TouchedRun line column a m b ∧ m ≠ [] ∧ registry.Means (String.ofList m) h.symbol
      ∧ h = ⟨h.symbol, render h.symbol, spanOf n a m⟩ := by
  constructor
  · intro hfind
    rcases hline : doc.line? n with _ | line
    · simp [find, Document.wordAt, hline] at hfind
    obtain ⟨a, m, b, hrun⟩ := exists_touchedRun line column
    rw [find_of_touchedRun hline hrun] at hfind
    split_ifs at hfind with hm
    obtain ⟨sym, hsym, rfl⟩ := Option.map_eq_some_iff.1 hfind
    exact ⟨line, a, m, b, rfl, hrun, hm, Registry.resolve_eq_some_iff.1 hsym, rfl⟩
  · rintro ⟨line, a, m, b, hline, hrun, hm, hmeans, heq⟩
    rw [find_of_touchedRun hline hrun, if_neg hm, Registry.resolve_eq_some_iff.2 hmeans,
      Option.map_some, ← heq]

/-- With any uniforms added, a hover is shown exactly on an identifier run that some namespace of the
precedence has as a name. Its range covers the run, its symbol is what the run means, and every
column of the run shows the same hover. -/
theorem find_on_token (extra : List Variable) (doc : Document) (pos : Position) :
    ((find ⟨extra⟩ doc pos).isSome ↔ ∃ line a m b, doc.line? pos.line = some line
      ∧ TouchedRun line pos.character a m b ∧ m ≠ []
      ∧ ∃ space ∈ [Namespace.function, .builtin, .uniform, .type, .keyword],
          ∃ sym ∈ Registry.table ⟨extra⟩ space, sym.name = String.ofList m)
    ∧ ∀ h, find ⟨extra⟩ doc pos = some h → ∃ line a m b, doc.line? pos.line = some line
      ∧ TouchedRun line pos.character a m b
      ∧ slice line (columnToByte line h.range.start.character)
          (columnToByte line h.range.stop.character) = m
      ∧ h.symbol.name = String.ofList m
      ∧ h.range = spanOf pos.line a m
      ∧ Registry.Means ⟨extra⟩ (String.ofList m) h.symbol
      ∧ h.symbol.space ≠ .snippet
      ∧ ∀ column, h.range.start.character ≤ column → column ≤ h.range.stop.character →
          find ⟨extra⟩ doc ⟨pos.line, column⟩ = some h := by
  constructor
  · rw [Option.isSome_iff_exists]
    constructor
    · rintro ⟨h, hfind⟩
      obtain ⟨line, a, m, b, hline, hrun, hm, hmeans, -⟩ := find_eq_some_iff_touched.1 hfind
      exact ⟨line, a, m, b, hline, hrun, hm, Registry.exists_means_iff.1 ⟨_, hmeans⟩⟩
    · rintro ⟨line, a, m, b, hline, hrun, hm, hname⟩
      obtain ⟨sym, hmeans⟩ := Registry.exists_means_iff.2 hname
      exact ⟨⟨sym, render sym, spanOf pos.line a m⟩,
        find_eq_some_iff_touched.2 ⟨line, a, m, b, hline, hrun, hm, hmeans, rfl⟩⟩
  · intro h hfind
    obtain ⟨line, a, m, b, hline, hrun, hm, hmeans, heq⟩ := find_eq_some_iff_touched.1 hfind
    have hrange : h.range = spanOf pos.line a m := by rw [heq]
    rw [hrange]
    refine ⟨line, a, m, b, hline, hrun, hrun.slice_span, hmeans.name_eq, rfl, hmeans,
      hmeans.space_ne_snippet, fun column hstart hstop => ?_⟩
    exact find_eq_some_iff_touched.2 ⟨line, a, m, b, hline, hrun.of_le hstart hstop, hm, hmeans, heq⟩

/-- A uniform declared twice under the name of a type, after a letter of two bytes: the later
declaration is shown, from either end of the name. -/
theorem find_on_token_shadowed :
    let extra : List Variable := [⟨"vec2", "vec2", "Cell."⟩, ⟨"vec2", "ivec2", "Grid."⟩]
    let doc := Document.ofText "é vec2(x)"
    let h : Hover := ⟨.uniform ⟨"vec2", "ivec2", "Grid."⟩,
      render (.uniform ⟨"vec2", "ivec2", "Grid."⟩), ⟨⟨0, 2⟩, ⟨0, 6⟩⟩⟩
    find ⟨extra⟩ doc ⟨0, 2⟩ = some h ∧ find ⟨extra⟩ doc ⟨0, 6⟩ = some h := by
  intro extra doc h
  have hfind : find ⟨extra⟩ doc ⟨0, 2⟩ = some h := by decide
  obtain ⟨line, a, m, b, -, -, -, -, -, -, -, hsame⟩ := (find_on_token extra doc ⟨0, 2⟩).2 h hfind
  exact ⟨hfind, hsame 6 (by decide) (by decide)⟩

end Hover

end GlslAssist
