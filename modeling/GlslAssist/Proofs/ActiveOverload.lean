import GlslAssist.Proofs.Lookup
import GlslAssist.SignatureHelp
import Mathlib.Tactic.ByContra

/-!
# The active overload

Help is shown exactly inside a call of a function that the table has, and it is about the argument
that the search counted (`find_activates`). The overload it activates is the first with room for that
argument, or the first of all where none has room. So while an overload is long enough, further
arguments never move the choice back (`selectOverload_le`); past the longest it falls back to the
first.
-/

namespace GlslAssist

/-- The overload has a parameter for the argument at that place. -/
def Signature.HasRoom (s : Signature) (active : Nat) : Prop :=
  active < s.parameters.length

instance (s : Signature) (active : Nat) : Decidable (s.HasRoom active) :=
  inferInstanceAs (Decidable (_ < _))

theorem Signature.HasRoom.of_le {s : Signature} {p q : Nat} (h : s.HasRoom q) (hle : p ≤ q) :
    s.HasRoom p :=
  Nat.lt_of_le_of_lt hle h

namespace SignatureHelp

variable {signatures : List Signature} {p q active : Nat}

/-- `index` is the overload to activate: one with room for the argument if there is any, none before
it having room, and the first where none has. -/
structure Activates (signatures : List Signature) (active index : Nat) : Prop where
  inTable : index < signatures.length
  room : (∃ s ∈ signatures, s.HasRoom active) → ∃ s, signatures[index]? = some s ∧ s.HasRoom active
  earlier : ∀ i < index, ∀ s, signatures[i]? = some s → ¬ s.HasRoom active
  fallback : (∀ s ∈ signatures, ¬ s.HasRoom active) → index = 0

/-- The two ways in which an overload is selected. -/
theorem selectOverload_cases (signatures : List Signature) (active : Nat) :
    (∃ s, signatures[selectOverload signatures active]? = some s ∧ s.HasRoom active
        ∧ ∀ i < selectOverload signatures active, ∀ t, signatures[i]? = some t →
          ¬ t.HasRoom active)
      ∨ selectOverload signatures active = 0 ∧ ∀ s ∈ signatures, ¬ s.HasRoom active := by
  rw [selectOverload]
  generalize hfind : signatures.findIdx? _ = found
  rcases found with _ | index
  · rw [List.findIdx?_eq_none_iff] at hfind
    refine .inr ⟨rfl, fun s hs hroom => ?_⟩
    exact absurd (decide_eq_true hroom) (Bool.eq_false_iff.1 (hfind s hs))
  · obtain ⟨hlt, hroom, hearlier⟩ := List.findIdx?_eq_some_iff_getElem.1 hfind
    refine .inl ⟨signatures[index], List.getElem?_eq_getElem hlt, of_decide_eq_true hroom,
      fun i hi t ht hroom' => ?_⟩
    obtain ⟨hilt, rfl⟩ := List.getElem?_eq_some_iff.1 ht
    exact hearlier i hi (decide_eq_true hroom')

theorem selectOverload_activates (hne : signatures ≠ []) (active : Nat) :
    Activates signatures active (selectOverload signatures active) := by
  rcases selectOverload_cases signatures active with ⟨s, hs, hroom, hearlier⟩ | ⟨hzero, hnone⟩
  · refine ⟨(List.getElem?_eq_some_iff.1 hs).1, fun _ => ⟨s, hs, hroom⟩, hearlier, fun hnone => ?_⟩
    exact absurd hroom (hnone s (List.mem_of_getElem? hs))
  · rw [hzero]
    refine ⟨List.length_pos_iff.2 hne, ?_, fun i hi => absurd hi (Nat.not_lt_zero i),
      fun _ => rfl⟩
    rintro ⟨s, hs, hroom⟩
    exact absurd hroom (hnone s hs)

/-- While an overload has room for the later of two arguments, it activates no overload before the one
that the earlier argument activates. -/
theorem selectOverload_le (hle : p ≤ q) (h : ∃ s ∈ signatures, s.HasRoom q) :
    selectOverload signatures p ≤ selectOverload signatures q := by
  obtain ⟨t, ht, htroom⟩ := h
  have hp := selectOverload_activates (List.ne_nil_of_mem ht) p
  have hq := selectOverload_activates (List.ne_nil_of_mem ht) q
  obtain ⟨s, hs, hroom⟩ := hq.room ⟨t, ht, htroom⟩
  by_contra hlt
  exact hp.earlier _ (Nat.lt_of_not_le hlt) s hs (hroom.of_le hle)

/-- Every function of the language has an overload. -/
theorem signatures_ne_nil {f : FunctionEntry} (hf : f ∈ Symbol.functions) : f.signatures ≠ [] := by
  have htable : ∀ f ∈ Symbol.functions, f.signatures.isEmpty = false := by decide +kernel
  intro hnil
  have := htable f hf
  rw [hnil] at this
  cases this

theorem find_eq_some_iff_call {r : Registry} {lookback : Nat} {doc : Document} {pos : Position}
    {help : SignatureHelp} :
    find r lookback doc pos = some help ↔ ∃ call, CallSite.find doc pos lookback = some call
      ∧ IsLast (·.name = call.function) Symbol.functions help.function
      ∧ help.activeParameter = call.activeParameter
      ∧ help.activeSignature = selectOverload help.function.signatures call.activeParameter := by
  simp only [find, Option.bind_eq_some_iff, Option.map_eq_some_iff, Registry.function?_eq_some_iff]
  refine exists_congr fun call => and_congr_right fun _ => ?_
  constructor
  · rintro ⟨f, hf, rfl⟩
    exact ⟨hf, rfl, rfl⟩
  · rintro ⟨hf, hparameter, hsignature⟩
    refine ⟨help.function, hf, ?_⟩
    rw [← hsignature, ← hparameter]

/-- Help is shown exactly where the search finds a call of a function of the table. It is about the
last function of that name and the argument that was counted, and its overload is the first with room
for the argument, or the first of all. Further arguments never move the choice back while some
overload has room for them. -/
theorem find_activates (r : Registry) (doc : Document) (pos : Position) (lookback : Nat) :
    ((find r lookback doc pos).isSome ↔ ∃ call, CallSite.find doc pos lookback = some call
        ∧ ∃ f ∈ Symbol.functions, f.name = call.function)
      ∧ (∀ help, find r lookback doc pos = some help → ∃ call,
        CallSite.find doc pos lookback = some call
          ∧ IsLast (·.name = call.function) Symbol.functions help.function
          ∧ help.activeParameter = call.activeParameter
          ∧ Activates help.function.signatures help.activeParameter help.activeSignature)
      ∧ ∀ (signatures : List Signature) (p q : Nat), p ≤ q → (∃ s ∈ signatures, s.HasRoom q) →
        selectOverload signatures p ≤ selectOverload signatures q := by
  refine ⟨?_, fun help hfind => ?_, fun signatures p q => selectOverload_le⟩
  · rw [Option.isSome_iff_exists]
    constructor
    · rintro ⟨help, hfind⟩
      obtain ⟨call, hcall, hlast, -⟩ := find_eq_some_iff_call.1 hfind
      exact ⟨call, hcall, help.function, hlast.mem, hlast.1⟩
    · rintro ⟨call, hcall, hname⟩
      obtain ⟨f, hf⟩ := exists_isLast hname
      exact ⟨⟨f, selectOverload f.signatures call.activeParameter, call.activeParameter⟩,
        find_eq_some_iff_call.2 ⟨call, hcall, hf, rfl, rfl⟩⟩
  · obtain ⟨call, hcall, hlast, hparameter, hsignature⟩ := find_eq_some_iff_call.1 hfind
    refine ⟨call, hcall, hlast, hparameter, ?_⟩
    rw [hsignature, hparameter]
    exact selectOverload_activates (signatures_ne_nil hlast.mem) call.activeParameter

/-- The second argument of `atan` activates the first overload of two parameters, and the third, for
which none has room, the first overload again. -/
theorem find_activates_atan :
    let doc := Document.ofText "atan(é,\n x, "
    ∃ help, find .builtin 20 doc ⟨1, 1⟩ = some help ∧ help.function.name = "atan"
      ∧ help.activeParameter = 1 ∧ help.activeSignature = 4
      ∧ Activates help.function.signatures 1 help.activeSignature
      ∧ selectOverload help.function.signatures 0 ≤ selectOverload help.function.signatures 1
      ∧ (find .builtin 20 doc ⟨1, 4⟩).map (·.activeSignature) = some 0 := by
  intro doc
  obtain ⟨hsome, hfound, hmono⟩ := find_activates .builtin doc ⟨1, 1⟩ 20
  obtain ⟨help, hfind⟩ := Option.isSome_iff_exists.1
    (hsome.2 ⟨⟨"atan", 1⟩, by decide, by decide⟩)
  have hdata : (find .builtin 20 doc ⟨1, 1⟩).map (fun h => (h.function.name, h.activeParameter,
      h.activeSignature)) = some ("atan", 1, 4) := by decide
  rw [hfind, Option.map_some, Option.some.injEq, Prod.mk.injEq, Prod.mk.injEq] at hdata
  obtain ⟨hname, hparameter, hsignature⟩ := hdata
  obtain ⟨call, -, -, -, hactive⟩ := hfound help hfind
  rw [hparameter] at hactive
  obtain ⟨s, hs, hroom⟩ : ∃ s ∈ help.function.signatures, s.HasRoom 1 := by
    by_contra hnone
    simp only [not_exists, not_and] at hnone
    have := hactive.fallback hnone
    omega
  exact ⟨help, hfind, hname, hparameter, hsignature, hactive,
    hmono help.function.signatures 0 1 (Nat.zero_le 1) ⟨s, hs, hroom⟩, by decide⟩

end SignatureHelp

end GlslAssist
