import GlslAssist.Completion

/-!
# Tables and lookups

A lookup finds the last symbol of that name in its namespace's table (`lookup_eq_some_iff`), and a
bare name means the one found in the first namespace of the precedence that has it
(`resolve_eq_some_iff`). Every candidate that is no snippet is therefore understood by its label
(`resolve_label`).
-/

namespace GlslAssist

/-- `x` is the last of the items with a property. -/
def IsLast {α : Type} (p : α → Prop) (items : List α) (x : α) : Prop :=
  p x ∧ ∃ before after, items = before ++ x :: after ∧ ∀ y ∈ after, ¬ p y

section Last

variable {α β : Type} {items : List α} {x : α}

theorem findRev?_eq_some_iff {p : α → Bool} :
    items.findRev? p = some x ↔ IsLast (p · = true) items x := by
  rw [List.findRev?_eq_find?_reverse, List.find?_eq_some_iff_append, IsLast]
  refine and_congr_right fun _ => ⟨?_, ?_⟩
  · rintro ⟨after, before, heq, hafter⟩
    refine ⟨before.reverse, after.reverse, ?_, fun y hy => ?_⟩
    · rw [← List.reverse_reverse items, heq]
      simp
    · have := hafter y (List.mem_reverse.1 hy)
      simpa using this
  · rintro ⟨before, after, rfl, hafter⟩
    exact ⟨after.reverse, before.reverse, by simp, fun y hy => by
      simpa using hafter y (List.mem_reverse.1 hy)⟩

theorem findRev?_eq_none_iff {p : α → Bool} :
    items.findRev? p = none ↔ ∀ x ∈ items, ¬ p x = true := by
  rw [List.findRev?_eq_find?_reverse, List.find?_eq_none]
  simp

theorem IsLast.mem {p : α → Prop} (h : IsLast p items x) : x ∈ items := by
  obtain ⟨-, before, after, rfl, -⟩ := h
  simp

theorem exists_isLast {p : α → Prop} [DecidablePred p] (h : ∃ x ∈ items, p x) :
    ∃ x, IsLast p items x := by
  rcases hlast : items.findRev? (fun y => decide (p y)) with _ | x
  · obtain ⟨x, hx, hpx⟩ := h
    exact absurd (decide_eq_true hpx) (findRev?_eq_none_iff.1 hlast x hx)
  · exact ⟨x, by simpa only [decide_eq_true_eq] using findRev?_eq_some_iff.1 hlast⟩

/-- Where no two items have one key, each is the last with its own. -/
theorem isLast_of_nodup {key : α → β} (h : (items.map key).Nodup) (hx : x ∈ items) :
    IsLast (key · = key x) items x := by
  obtain ⟨before, after, rfl⟩ := List.append_of_mem hx
  rw [List.map_append, List.map_cons, List.nodup_append, List.nodup_cons] at h
  refine ⟨rfl, before, after, rfl, fun y hy heq => h.2.1.1 ?_⟩
  rw [← heq]
  exact List.mem_map_of_mem hy

theorem findRev?_append (xs ys : List α) (p : α → Bool) :
    (xs ++ ys).findRev? p = (ys.findRev? p).or (xs.findRev? p) := by
  simp [List.find?_append]

theorem findRev?_map (f : α → β) (p : β → Bool) :
    (items.map f).findRev? p = (items.findRev? (p ∘ f)).map f := by
  rw [List.findRev?_eq_find?_reverse, ← List.map_reverse, List.find?_map,
    List.findRev?_eq_find?_reverse]

end Last

namespace Registry

variable {r : Registry} {space : Namespace} {name : String} {sym : Symbol}

theorem space_of_mem_table (h : sym ∈ r.table space) : sym.space = space := by
  cases space <;>
    · obtain ⟨entry, -, rfl⟩ := List.mem_map.1 h
      rfl

theorem mem_symbols_iff : sym ∈ r.symbols ↔ sym ∈ r.table sym.space := by
  rw [symbols, List.mem_flatMap]
  constructor
  · rintro ⟨space, -, h⟩
    rwa [space_of_mem_table h]
  · exact fun h => ⟨sym.space, by cases sym <;> simp [Symbol.space, Namespace.all], h⟩

theorem lookup_eq_some_iff :
    r.lookup space name = some sym ↔ IsLast (·.name = name) (r.table space) sym := by
  rw [lookup, findRev?_eq_some_iff]
  simp only [beq_iff_eq]

theorem lookup_eq_none_iff :
    r.lookup space name = none ↔ ∀ sym ∈ r.table space, sym.name ≠ name := by
  rw [lookup, findRev?_eq_none_iff]
  simp only [beq_iff_eq, Ne]

theorem function?_eq_some_iff {f : FunctionEntry} :
    r.function? name = some f ↔ IsLast (·.name = name) Symbol.functions f := by
  rw [function?, findRev?_eq_some_iff]
  simp only [beq_iff_eq]

/-- What a bare name means: the last symbol of that name in the first namespace that has the name,
functions before built-in variables, uniforms, types and keywords. -/
def Means (r : Registry) (name : String) (sym : Symbol) : Prop :=
  ∃ before space after,
    [Namespace.function, .builtin, .uniform, .type, .keyword] = before ++ space :: after
      ∧ (∀ earlier ∈ before, ∀ other ∈ r.table earlier, other.name ≠ name)
      ∧ IsLast (·.name = name) (r.table space) sym

theorem resolve_eq_some_iff : r.resolve name = some sym ↔ r.Means name sym := by
  simp only [resolve, List.findSome?_eq_some_iff, lookup_eq_some_iff, lookup_eq_none_iff, Means]
  constructor
  · rintro ⟨before, space, after, hp, hlast, hbefore⟩
    exact ⟨before, space, after, hp, hbefore, hlast⟩
  · rintro ⟨before, space, after, hp, hbefore, hlast⟩
    exact ⟨before, space, after, hp, hlast, hbefore⟩

theorem of_lookup (h : r.lookup space name = some sym) :
    sym ∈ r.table space ∧ sym.name = name := by
  have hlast := lookup_eq_some_iff.1 h
  exact ⟨hlast.mem, hlast.1⟩

theorem exists_lookup (h : sym ∈ r.table space) :
    ∃ found, r.lookup space sym.name = some found := by
  rw [← Option.isSome_iff_exists, ← Option.ne_none_iff_isSome]
  exact fun hnone => lookup_eq_none_iff.1 hnone sym h rfl

theorem name_of_resolve (h : r.resolve name = some sym) : sym.name = name := by
  obtain ⟨space, -, hs⟩ := List.exists_of_findSome?_eq_some h
  exact (of_lookup hs).2

theorem exists_resolve (h : sym ∈ r.table space) (hp : space ∈ Namespace.precedence) :
    ∃ found, r.resolve sym.name = some found := by
  rw [← Option.isSome_iff_exists, resolve, List.findSome?_isSome_iff]
  exact ⟨space, hp, Option.isSome_iff_exists.2 (exists_lookup h)⟩

end Registry

namespace Candidate

variable {r : Registry} {c : Candidate}

theorem mem_ranked_iff : c ∈ ranked r ↔ ∃ sym ∈ r.symbols, ofSymbol sym = c := by
  rw [ranked, List.mem_mergeSort, List.mem_map]

theorem mem_ranked_of_mem_uniforms {u : Variable} (hu : u ∈ r.uniforms) :
    ofSymbol (.uniform u) ∈ ranked r := by
  have hmem : .uniform u ∈ r.symbols := Registry.mem_symbols_iff.2 (List.mem_map_of_mem hu)
  exact mem_ranked_iff.2 ⟨_, hmem, rfl⟩

theorem label_ofSymbol (sym : Symbol) : (ofSymbol sym).label = sym.name := by
  cases sym <;> rfl

theorem space_ofSymbol (sym : Symbol) : (ofSymbol sym).kind.space = sym.space := by
  cases sym <;> rfl

theorem isSnippet_ofSymbol (sym : Symbol) : (ofSymbol sym).isSnippet = (sym.space == .snippet) := by
  cases sym <;> rfl

/-- Only snippets insert anything but their label. -/
theorem insertText_of_mem_ranked (hc : c ∈ ranked r) (h : c.isSnippet = false) :
    c.insertText = c.label := by
  obtain ⟨sym, -, rfl⟩ := mem_ranked_iff.1 hc
  cases sym <;> first | rfl | simp [ofSymbol, isSnippet] at h

theorem resolve_label (hc : c ∈ ranked r) (h : c.isSnippet = false) :
    ∃ sym, r.resolve c.label = some sym ∧ sym.name = c.label := by
  obtain ⟨sym, hsym, rfl⟩ := mem_ranked_iff.1 hc
  rw [isSnippet_ofSymbol, beq_eq_false_iff_ne] at h
  have hp : sym.space ∈ Namespace.precedence := by
    cases sym <;> simp_all [Symbol.space, Namespace.precedence]
  obtain ⟨found, hf⟩ := Registry.exists_resolve (Registry.mem_symbols_iff.1 hsym) hp
  rw [label_ofSymbol]
  exact ⟨found, hf, Registry.name_of_resolve hf⟩

end Candidate

end GlslAssist
