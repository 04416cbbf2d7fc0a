import GlslAssist.Proofs.Extension
import GlslAssist.Proofs.SoundSettings

/-!
# What is offered and what is shown

Under settings that were read, a candidate is made from the very symbol that its label finds in its
namespace (`offer_eq_lookup`). The one exception is a canvas uniform that the project declares again:
both declarations are offered, and the lookup finds the project's.
-/

namespace GlslAssist

namespace Registry

variable {r : Registry} {space : Namespace} {sym : Symbol}

/-- The language has no name twice in one namespace. -/
theorem nodup_builtin_table (space : Namespace) : ((builtin.table space).map Symbol.name).Nodup := by
  cases space <;> decide +kernel

theorem nodup_table_of_ne_uniform (h : space ≠ .uniform) :
    ((r.table space).map Symbol.name).Nodup := by
  rw [table_of_ne_uniform r h]
  exact nodup_builtin_table space

theorem lookup_of_nodup (h : ((r.table space).map Symbol.name).Nodup) (hsym : sym ∈ r.table space) :
    r.lookup space sym.name = some sym :=
  lookup_eq_some_iff.2 (isLast_of_nodup h hsym)

/-- A uniform is found by its name unless it is the canvas's and the project declares another of that
name, which is found instead. -/
theorem lookup_uniform_of_nodup {extra : List Variable} (h : (extra.map (·.name)).Nodup) {u : Variable}
    (hu : u ∈ Symbol.canvasUniforms ++ extra) :
    lookup ⟨extra⟩ .uniform u.name = some (.uniform u)
      ∨ u ∈ Symbol.canvasUniforms
        ∧ ∃ v ∈ extra, v.name = u.name ∧ lookup ⟨extra⟩ .uniform u.name = some (.uniform v) := by
  rw [lookup_uniform]
  rcases List.mem_append.1 hu with hcanvas | hextra
  · by_cases hagain : ∃ v ∈ extra, v.name = u.name
    · obtain ⟨v, hv⟩ := exists_isLast hagain
      refine .inr ⟨hcanvas, v, hv.mem, hv.1, ?_⟩
      rw [uniform?_of_isLast hv, Option.map_some]
    · have hmem : .uniform u ∈ builtin.table .uniform :=
        List.mem_map_of_mem (List.mem_append_left [] hcanvas)
      rw [uniform?_of_forall_ne (by simpa using hagain), ← lookup_uniform]
      exact .inl (lookup_of_nodup (nodup_builtin_table .uniform) hmem)
  · rw [uniform?_of_isLast (isLast_of_nodup h hextra)]
    exact .inl rfl

end Registry

variable {content : List Char} {s : Settings} {c : Candidate}

/-- Under settings that were read, the label of every candidate finds a symbol that is offered, and
the candidate is made from this symbol or from the canvas uniform that this symbol declares again. -/
theorem offer_eq_lookup (h : Settings.ofText content = .ok s) (hc : c ∈ Candidate.ranked s.registry) :
    ∃ sym, s.registry.lookup c.kind.space c.label = some sym
      ∧ Candidate.ofSymbol sym ∈ Candidate.ranked s.registry
      ∧ (c = Candidate.ofSymbol sym
        ∨ ∃ u ∈ Symbol.canvasUniforms, c = Candidate.ofSymbol (.uniform u)
          ∧ ∃ v ∈ s.uniforms, v.name = u.name ∧ sym = .uniform v) := by
  obtain ⟨offered, hoffered, rfl⟩ := Candidate.mem_ranked_iff.1 hc
  rw [Candidate.space_ofSymbol, Candidate.label_ofSymbol]
  have htable := Registry.mem_symbols_iff.1 hoffered
  by_cases hspace : offered.space = .uniform
  · rw [hspace] at htable ⊢
    obtain ⟨u, hu, rfl⟩ := List.mem_map.1 htable
    have hdistinct := (Settings.sound_of_ofText h).distinct
    rcases Registry.lookup_uniform_of_nodup hdistinct hu with hown | ⟨hcanvas, v, hv, hname, hlast⟩
    · exact ⟨.uniform u, hown, hc, .inl rfl⟩
    · have hoffer := Candidate.mem_ranked_of_mem_uniforms (r := s.registry)
        (List.mem_append_right _ hv)
      exact ⟨.uniform v, hlast, hoffer, .inr ⟨u, hcanvas, rfl, v, hv, hname, rfl⟩⟩
  · have hnodup := Registry.nodup_table_of_ne_uniform (r := s.registry) hspace
    exact ⟨offered, Registry.lookup_of_nodup hnodup htable, hc, .inl rfl⟩

/-- A project that declares the canvas's `u_time` again, with another type. -/
def redeclaring : Settings :=
  { Settings.default with uniforms := [⟨"u_time", "int", ""⟩] }

def redeclaringText : List Char :=
  "[[uniforms]]\nname = \"u_time\"\ntype = \"int\"\n".toList

theorem ofText_redeclaringText : Settings.ofText redeclaringText = .ok redeclaring := by
  have h : (Settings.ofText redeclaringText).toOption = some redeclaring := by decide +kernel
  rcases hread : Settings.ofText redeclaringText with e | s
  · rw [hread] at h
    cases h
  · rw [hread] at h
    exact congrArg _ (Option.some.inj h)

theorem offer_eq_lookup_redeclared :
    let s := redeclaring
    let time := Symbol.canvasUniforms.head (by decide)
    let c := Candidate.ofSymbol (.uniform time)
    Settings.ofText redeclaringText = .ok s ∧ c ∈ Candidate.ranked s.registry
      ∧ ∃ sym, s.registry.lookup .uniform "u_time" = some sym
        ∧ Candidate.ofSymbol sym ∈ Candidate.ranked s.registry
        ∧ (c = Candidate.ofSymbol sym
          ∨ ∃ u ∈ Symbol.canvasUniforms, c = Candidate.ofSymbol (.uniform u)
            ∧ ∃ v ∈ s.uniforms, v.name = u.name ∧ sym = .uniform v) := by
  intro s time c
  have hc : c ∈ Candidate.ranked s.registry :=
    Candidate.mem_ranked_of_mem_uniforms (List.mem_append_left _ (List.head_mem _))
  exact ⟨ofText_redeclaringText, hc, offer_eq_lookup ofText_redeclaringText hc⟩

/-- The canvas's own declaration is still offered where the lookup finds the project's. -/
theorem exists_offer_ne_lookup :
    ∃ s, Settings.ofText redeclaringText = .ok s ∧ ∃ c ∈ Candidate.ranked s.registry,
      ∃ sym, s.registry.lookup c.kind.space c.label = some sym
        ∧ c.detail = "uniform float" ∧ (Candidate.ofSymbol sym).detail = "uniform int" := by
  have htime : ⟨"u_time", "float", "Elapsed time in seconds (from `performance.now() / 1000`)."⟩
      ∈ Symbol.canvasUniforms := List.mem_cons_self
  have hc := Candidate.mem_ranked_of_mem_uniforms (r := redeclaring.registry)
    (List.mem_append_left _ htime)
  exact ⟨redeclaring, ofText_redeclaringText, _, hc, .uniform ⟨"u_time", "int", ""⟩, by decide,
    by decide, by decide⟩

end GlslAssist
