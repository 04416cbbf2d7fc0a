import GlslAssist.Hover
import GlslAssist.Proofs.Ranking
import GlslAssist.SignatureHelp
import Mathlib.Tactic.ByContra

/-!
# Adding uniforms

A registry with a project's uniforms keeps what the language's own registry says: other names mean
what they meant, calls get the same help, and the candidates stay in their order, with one more for
each uniform that is added (`extension_conservative`). A name of the project's is hidden by functions
and built-in variables and hides everything else.
-/

namespace GlslAssist

namespace Registry

variable {extra : List Variable} {name : String} {space : Namespace}

theorem uniform?_eq (extra : List Variable) (name : String) :
    uniform? ⟨extra⟩ name = (extra.findRev? (·.name == name)).or (builtin.uniform? name) := by
  rw [uniform?, uniforms, findRev?_append, uniform?, builtin, uniforms, List.append_nil]

theorem lookup_uniform (r : Registry) (name : String) :
    r.lookup .uniform name = (r.uniform? name).map .uniform := by
  rw [lookup, table, findRev?_map]
  rfl

theorem table_of_ne_uniform (r : Registry) (h : space ≠ .uniform) :
    r.table space = builtin.table space := by
  cases space with
  | uniform => exact absurd rfl h
  | _ => rfl

theorem lookup_of_ne_uniform (r : Registry) (h : space ≠ .uniform) :
    r.lookup space name = builtin.lookup space name := by
  rw [lookup, table_of_ne_uniform r h, lookup]

/-- The uniforms that are added stand together among the symbols. -/
theorem exists_symbols_eq : ∃ before after, ∀ extra : List Variable,
    symbols ⟨extra⟩ = before ++ extra.map .uniform ++ after := by
  refine ⟨Symbol.functions.map .function ++ Symbol.types.map .type
    ++ Symbol.builtinVariables.map .builtin ++ Symbol.canvasUniforms.map .uniform,
    Symbol.keywords.map .keyword ++ Symbol.snippets.map .snippet, fun extra => ?_⟩
  simp [symbols, Namespace.all, table, uniforms]

/-- A bare name is looked up in one namespace after the other, and only the third of them holds the
uniforms that are added. -/
theorem resolve_eq (r : Registry) (name : String) :
    r.resolve name = (builtin.lookup .function name).or ((builtin.lookup .builtin name).or
      ((r.lookup .uniform name).or
        ((builtin.lookup .type name).or (builtin.lookup .keyword name)))) := by
  have hcons (space : Namespace) (rest : List Namespace) :
      (space :: rest).findSome? (r.lookup · name)
        = (r.lookup space name).or (rest.findSome? (r.lookup · name)) := by
    rw [List.findSome?_cons]
    cases r.lookup space name <;> rfl
  simp only [resolve, Namespace.precedence, hcons, List.findSome?_nil, Option.or_none]
  rw [lookup_of_ne_uniform r (by decide : Namespace.function ≠ .uniform),
    lookup_of_ne_uniform r (by decide : Namespace.builtin ≠ .uniform),
    lookup_of_ne_uniform r (by decide : Namespace.type ≠ .uniform),
    lookup_of_ne_uniform r (by decide : Namespace.keyword ≠ .uniform)]

/-- The names that no uniform can take: those of functions and of built-in variables. -/
def IsReserved (name : String) : Prop :=
  (∃ f ∈ Symbol.functions, f.name = name) ∨ ∃ v ∈ Symbol.builtinVariables, v.name = name

instance : Decidable (IsReserved name) :=
  inferInstanceAs (Decidable (_ ∨ _))

theorem isReserved_iff : IsReserved name
    ↔ (builtin.lookup .function name).isSome ∨ (builtin.lookup .builtin name).isSome := by
  simp only [IsReserved, ← Option.ne_none_iff_isSome, Ne, lookup_eq_none_iff, table, List.mem_map,
    not_forall, not_not]
  simp [Symbol.name]

theorem uniform?_of_isLast {u : Variable} (h : IsLast (·.name = name) extra u) :
    uniform? ⟨extra⟩ name = some u := by
  have hlast : extra.findRev? (·.name == name) = some u := by
    rw [findRev?_eq_some_iff]
    simpa only [beq_iff_eq] using h
  rw [uniform?_eq, hlast, Option.some_or]

theorem uniform?_of_forall_ne (h : ∀ u ∈ extra, u.name ≠ name) :
    uniform? ⟨extra⟩ name = builtin.uniform? name := by
  have hnone : extra.findRev? (·.name == name) = none := by
    rw [findRev?_eq_none_iff]
    simpa only [beq_iff_eq] using h
  rw [uniform?_eq, hnone, Option.none_or]

theorem resolve_of_isReserved (r : Registry) (h : IsReserved name) :
    r.resolve name = builtin.resolve name := by
  rw [resolve_eq, resolve_eq builtin]
  rcases isReserved_iff.1 h with h | h
  · obtain ⟨sym, hsym⟩ := Option.isSome_iff_exists.1 h
    rw [hsym, Option.some_or, Option.some_or]
  · obtain ⟨sym, hsym⟩ := Option.isSome_iff_exists.1 h
    rw [hsym, Option.some_or, Option.some_or]

theorem resolve_of_forall_ne (h : ∀ u ∈ extra, u.name ≠ name) :
    resolve ⟨extra⟩ name = builtin.resolve name := by
  rw [resolve_eq, resolve_eq builtin, lookup_uniform, lookup_uniform, uniform?_of_forall_ne h]

theorem resolve_of_isLast {u : Variable} (hname : ¬ IsReserved name)
    (h : IsLast (·.name = name) extra u) : resolve ⟨extra⟩ name = some (.uniform u) := by
  rw [isReserved_iff, not_or, Option.not_isSome_iff_eq_none, Option.not_isSome_iff_eq_none] at hname
  rw [resolve_eq, hname.1, hname.2, lookup_uniform, uniform?_of_isLast h, Option.none_or,
    Option.none_or, Option.map_some, Option.some_or]

end Registry

theorem hover_of_forall_ne {extra : List Variable} {doc : Document} {pos : Position}
    (h : ∀ word, doc.wordAt pos = some word → ∀ u ∈ extra, u.name ≠ word.text) :
    Hover.find ⟨extra⟩ doc pos = Hover.find .builtin doc pos := by
  rw [Hover.find, Hover.find]
  rcases hword : doc.wordAt pos with _ | word
  · rfl
  · rw [Option.bind_some, Option.bind_some, Registry.resolve_of_forall_ne (h word hword)]

/-- What a registry says with uniforms added, against what it says without them. -/
theorem extension_conservative (extra : List Variable) :
    let r : Registry := ⟨extra⟩
    let b := Registry.builtin
    (∀ name,
      ((∃ u ∈ extra, u.name = name) →
        ∃ u, IsLast (·.name = name) extra u ∧ r.uniform? name = some u
          ∧ (¬ Registry.IsReserved name → r.resolve name = some (.uniform u)))
        ∧ ((∀ u ∈ extra, u.name ≠ name) → r.uniform? name = b.uniform? name)
        ∧ (Registry.IsReserved name ∨ (∀ u ∈ extra, u.name ≠ name) →
          r.resolve name = b.resolve name))
      ∧ (∀ doc pos lookback,
        SignatureHelp.find r lookback doc pos = SignatureHelp.find b lookback doc pos)
      ∧ (∀ doc pos, Hover.find r doc pos ≠ Hover.find b doc pos →
        ∃ word, doc.wordAt pos = some word ∧ ∃ u ∈ extra, u.name = word.text)
      ∧ (Candidate.ranked b).Sublist (Candidate.ranked r)
      ∧ (Candidate.ranked r).Perm
        (Candidate.ranked b ++ extra.map fun u => Candidate.ofSymbol (.uniform u)) := by
  intro r b
  obtain ⟨before, after, hsymbols⟩ := Registry.exists_symbols_eq
  have hb : b.symbols = before ++ after := by
    rw [show b = ⟨[]⟩ from rfl, hsymbols [], List.map_nil, List.append_nil]
  refine ⟨fun name => ⟨fun hex => ?_, Registry.uniform?_of_forall_ne, ?_⟩,
    fun doc pos lookback => rfl, ?_, ?_, ?_⟩
  · obtain ⟨u, hu⟩ := exists_isLast hex
    exact ⟨u, hu, Registry.uniform?_of_isLast hu, fun hname => Registry.resolve_of_isLast hname hu⟩
  · rintro (hname | hname)
    · exact Registry.resolve_of_isReserved r hname
    · exact Registry.resolve_of_forall_ne hname
  · intro doc pos hne
    by_contra hnot
    refine hne (hover_of_forall_ne fun word hword u hu hname => ?_)
    exact hnot ⟨word, hword, u, hu, hname⟩
  · refine Candidate.ranked_sublist ?_
    rw [hb, hsymbols extra]
    exact (List.sublist_append_left before _).append (List.Sublist.refl after)
  · refine (Candidate.ranked_perm r).trans ?_
    refine List.Perm.trans ?_ ((Candidate.ranked_perm b).symm.append_right _)
    rw [hb, hsymbols extra]
    simp only [List.map_append, List.map_map, List.append_assoc]
    exact List.Perm.append_left _ List.perm_append_comm

/-- Added under the name of a type, a uniform is meant in its place; added under the name of a
function, it is hidden, and the token shows what it showed. -/
theorem extension_conservative_shadowing :
    let extra : List Variable := [⟨"vec2", "float", ""⟩, ⟨"sin", "int", ""⟩, ⟨"vec2", "int", ""⟩]
    let r : Registry := ⟨extra⟩
    let doc := Document.ofText "sin(vec2)"
    r.resolve "vec2" = some (.uniform ⟨"vec2", "int", ""⟩)
      ∧ r.resolve "sin" = Registry.builtin.resolve "sin"
      ∧ r.uniform? "u_time" = Registry.builtin.uniform? "u_time"
      ∧ Hover.find r doc ⟨0, 5⟩ ≠ Hover.find .builtin doc ⟨0, 5⟩
      ∧ ∃ word, doc.wordAt ⟨0, 5⟩ = some word ∧ ∃ u ∈ extra, u.name = word.text := by
  intro extra r doc
  obtain ⟨hnames, -, hhover, -, -⟩ := extension_conservative extra
  obtain ⟨u, -, hu, hresolve⟩ := (hnames "vec2").1 (by decide)
  obtain rfl : ⟨"vec2", "int", ""⟩ = u :=
    Option.some.inj ((by decide : r.uniform? "vec2" = some ⟨"vec2", "int", ""⟩).symm.trans hu)
  have hne : Hover.find r doc ⟨0, 5⟩ ≠ Hover.find .builtin doc ⟨0, 5⟩ := by decide
  exact ⟨hresolve (by decide), (hnames "sin").2.2 (.inl (by decide)),
    (hnames "u_time").2.1 (by decide), hne, hhover doc ⟨0, 5⟩ hne⟩

end GlslAssist
