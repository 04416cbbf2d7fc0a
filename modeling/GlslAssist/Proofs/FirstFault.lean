import GlslAssist.Proofs.Extension
import GlslAssist.Proofs.SoundSettings
import Mathlib.Data.List.DropRight
import Mathlib.Data.List.Perm.Subperm
import Mathlib.Order.Bounds.Defs

/-!
# The first fault of settings

The uniforms are gone through once, with the names that were seen kept, and each is asked for a name
before it is asked for a new one. What this reports is the fault of the first uniform that is blank or
repeats an earlier one (`first_bad_reported`), whatever follows it. Settings without a fault stay so when
uniforms are left out or put in another order, and their registry finds each of them by its name, also
where it declares a uniform of the canvas again.
-/

namespace GlslAssist

namespace Text

theorem trim_eq_nil_iff {s : List Char} : trim s = [] ↔ ∀ c ∈ s, isBlank c = true := by
  have htrim : trim s = (s.dropWhile isBlank).rdropWhile isBlank := rfl
  rw [htrim, List.rdropWhile_eq_nil_iff]
  constructor
  · intro h
    rw [← List.dropWhile_eq_nil_iff]
    by_contra hne
    have hhead := h _ (List.head_mem hne)
    rw [List.head_dropWhile_not isBlank hne] at hhead
    cases hhead
  · exact fun h c hc => h c ((List.dropWhile_sublist isBlank).mem hc)

end Text

namespace Settings

variable {s : Settings} {us before : List Variable} {seen : List String} {f : Fault} {i : Nat}

/-- The name has nothing but blanks in it. -/
def IsUnnamed (u : Variable) : Prop :=
  ∀ c ∈ u.name.toList, Text.isBlank c = true

instance (u : Variable) : Decidable (IsUnnamed u) :=
  decidable_of_iff (u.name.toList.all Text.isBlank = true) List.all_eq_true

theorem isUnnamed_iff {u : Variable} : Text.trim u.name.toList = [] ↔ IsUnnamed u :=
  Text.trim_eq_nil_iff

/-- The uniform at that index is blank, or has the name of an earlier one. -/
def IsBadAt (us : List Variable) (i : Nat) : Prop :=
  ∃ u, us[i]? = some u ∧ (IsUnnamed u ∨ ∃ j < i, ∃ v, us[j]? = some v ∧ v.name = u.name)

/-- What is wrong with a uniform that is not as it should be. -/
def faultOf (u : Variable) : Fault :=
  if IsUnnamed u then .emptyName else .repeatedName u.name

/-- The uniforms before the one that is reported are in order. -/
theorem exists_of_uniformFault? : ∀ {us : List Variable} {seen : List String},
    uniformFault? seen us = some f → ∃ before u after, us = before ++ u :: after
      ∧ uniformFault? seen before = none ∧ f = faultOf u
      ∧ (IsUnnamed u ∨ u.name ∈ seen ∨ ∃ v ∈ before, v.name = u.name)
  | u :: rest, seen, h => by
    rw [uniformFault?] at h
    split_ifs at h with hblank hseen
    · rw [isUnnamed_iff] at hblank
      refine ⟨[], u, rest, rfl, rfl, ?_, .inl hblank⟩
      rw [faultOf, if_pos hblank, ← Option.some.inj h]
    · rw [isUnnamed_iff] at hblank
      refine ⟨[], u, rest, rfl, rfl, ?_, .inr (.inl hseen)⟩
      rw [faultOf, if_neg hblank, ← Option.some.inj h]
    · obtain ⟨before, v, after, rfl, hnone, hf, hbad⟩ := exists_of_uniformFault? h
      refine ⟨u :: before, v, after, rfl, ?_, hf, ?_⟩
      · rw [uniformFault?, if_neg hblank, if_neg hseen, hnone]
      · rcases hbad with hblank' | hname | ⟨w, hw, hname⟩
        · exact .inl hblank'
        · rcases List.mem_cons.1 hname with hname | hname
          · exact .inr (.inr ⟨u, List.mem_cons_self, hname.symm⟩)
          · exact .inr (.inl hname)
        · exact .inr (.inr ⟨w, List.mem_cons_of_mem u hw, hname⟩)

/-- A list of uniforms has no bad one exactly when all have names, no two the same. -/
theorem forall_not_isBadAt_iff :
    (∀ i, ¬ IsBadAt us i) ↔ (∀ u ∈ us, ¬ IsUnnamed u) ∧ (us.map (·.name)).Nodup := by
  rw [List.Nodup, List.pairwise_map, List.pairwise_iff_getElem]
  constructor
  · intro h
    refine ⟨fun u hu hblank => ?_, fun j i hj hi hlt heq => ?_⟩
    · obtain ⟨i, hi⟩ := List.mem_iff_getElem?.1 hu
      exact h i ⟨u, hi, .inl hblank⟩
    · exact h i ⟨us[i], List.getElem?_eq_getElem hi,
        .inr ⟨j, hlt, us[j], List.getElem?_eq_getElem hj, heq⟩⟩
  · rintro ⟨hnamed, hdistinct⟩ i ⟨u, hu, hblank | ⟨j, hlt, v, hv, hname⟩⟩
    · exact hnamed u (List.mem_of_getElem? hu) hblank
    · obtain ⟨hi, rfl⟩ := List.getElem?_eq_some_iff.1 hu
      obtain ⟨hj, rfl⟩ := List.getElem?_eq_some_iff.1 hv
      exact hdistinct j i hj hi hlt hname

theorem uniformFault?_nil_eq_none_iff : uniformFault? [] us = none ↔ ∀ i, ¬ IsBadAt us i := by
  rw [forall_not_isBadAt_iff, uniformFault?_eq_none_iff]
  simp only [Ne, isUnnamed_iff, List.not_mem_nil, not_false_eq_true, implies_true, and_true]

/-- Whether a uniform is bad depends on those before it only. -/
theorem isBadAt_append_iff {rest : List Variable} (hlt : i < before.length) :
    IsBadAt (before ++ rest) i ↔ IsBadAt before i := by
  rw [IsBadAt, IsBadAt, List.getElem?_append_left hlt]
  refine exists_congr fun u => and_congr_right fun _ => or_congr_right ?_
  refine exists_congr fun j => and_congr_right fun hj => ?_
  rw [List.getElem?_append_left (Nat.lt_trans hj hlt)]

/-- What is reported is the fault of the first bad uniform. -/
theorem uniformFault?_of_isLeast (h : IsLeast {i | IsBadAt us i} i) :
    ∃ u, us[i]? = some u ∧ uniformFault? [] us = some (faultOf u) := by
  rcases hfault : uniformFault? [] us with _ | f
  · exact absurd h.1 (uniformFault?_nil_eq_none_iff.1 hfault i)
  obtain ⟨before, u, after, rfl, hnone, rfl, hbad⟩ := exists_of_uniformFault? hfault
  have hnotbad := uniformFault?_nil_eq_none_iff.1 hnone
  have hat : (before ++ u :: after)[before.length]? = some u := by simp
  have hleast : IsBadAt (before ++ u :: after) before.length := by
    refine ⟨u, hat, hbad.imp_right fun hbad => ?_⟩
    obtain ⟨v, hv, hname⟩ := hbad.resolve_left List.not_mem_nil
    obtain ⟨j, hj, rfl⟩ := List.getElem_of_mem hv
    exact ⟨j, hj, before[j], by rw [List.getElem?_append_left hj, List.getElem?_eq_getElem hj], hname⟩
  have hge : before.length ≤ i := by
    by_contra hlt
    exact hnotbad i ((isBadAt_append_iff (Nat.lt_of_not_le hlt)).1 h.1)
  obtain rfl := Nat.le_antisymm hge (h.2 hleast)
  exact ⟨u, hat, rfl⟩

theorem firstFault?_of_lookback_ne_zero (h : s.lookback ≠ 0) :
    s.firstFault? = uniformFault? [] s.uniforms :=
  if_neg h

theorem firstFault?_eq_zeroLookback_iff : s.firstFault? = some .zeroLookback ↔ s.lookback = 0 := by
  constructor
  · intro h
    by_contra hne
    rw [firstFault?_of_lookback_ne_zero hne] at h
    obtain ⟨-, u, -, -, -, hf, -⟩ := exists_of_uniformFault? h
    rw [faultOf] at hf
    split_ifs at hf
  · intro h
    rw [firstFault?, if_pos h]

/-- Settings stay sound with some of their uniforms, in any order. -/
theorem Sound.of_subperm (h : s.Sound) (hus : us.Subperm s.uniforms) :
    Sound { s with uniforms := us } := by
  refine ⟨h.lookback_pos, fun u hu => h.named u (hus.subset hu), ?_⟩
  obtain ⟨vs, hperm, hsub⟩ := hus
  exact (hperm.map _).nodup_iff.1 (h.distinct.sublist (hsub.map _))

theorem Sound.uniform?_eq (h : s.Sound) {u : Variable} (hu : u ∈ s.uniforms) :
    s.registry.uniform? u.name = some u :=
  Registry.uniform?_of_isLast (isLast_of_nodup h.distinct hu)

/-- A lookback of zero is reported before all else, and then the first uniform that is blank or
repeats an earlier one. Where nothing is reported the settings are what was decoded. They stay without
a fault with some of their uniforms, in any order, and their registry finds each uniform. -/
theorem first_bad_reported (s : Settings) :
    (s.firstFault? = some .zeroLookback ↔ s.lookback = 0)
      ∧ (s.lookback ≠ 0 →
        (s.firstFault? = none ↔ ∀ i, ¬ IsBadAt s.uniforms i)
          ∧ ∀ i, IsLeast {i | IsBadAt s.uniforms i} i → ∃ u, s.uniforms[i]? = some u
            ∧ (IsUnnamed u → s.firstFault? = some .emptyName)
            ∧ (¬ IsUnnamed u → s.firstFault? = some (.repeatedName u.name)))
      ∧ (∀ content, decoded? content = some s →
        (∀ s', ofText content = .ok s' ↔ s.firstFault? = none ∧ s' = s)
          ∧ ∀ f, ofText content = .error (.fault f) ↔ s.firstFault? = some f)
      ∧ (s.firstFault? = none →
        (∀ us, us.Subperm s.uniforms → firstFault? { s with uniforms := us } = none)
          ∧ ∀ u ∈ s.uniforms, s.registry.uniform? u.name = some u) := by
  refine ⟨firstFault?_eq_zeroLookback_iff, fun hlookback => ⟨?_, fun i hi => ?_⟩,
    fun content hs => ?_, fun hnone => ⟨fun us hus => ?_, fun u => ?_⟩⟩
  · rw [firstFault?_of_lookback_ne_zero hlookback, uniformFault?_nil_eq_none_iff]
  · obtain ⟨u, hu, hfault⟩ := uniformFault?_of_isLeast hi
    rw [firstFault?_of_lookback_ne_zero hlookback, hfault, faultOf]
    exact ⟨u, hu, fun hblank => by rw [if_pos hblank], fun hblank => by rw [if_neg hblank]⟩
  · rw [ofText_of_decoded? hs]
    rcases s.firstFault? with _ | f
    · simp [eq_comm]
    · simp [eq_comm]
  · exact firstFault?_eq_none_iff.2 ((firstFault?_eq_none_iff.1 hnone).of_subperm hus)
  · exact (firstFault?_eq_none_iff.1 hnone).uniform?_eq

/-- A name is repeated before one is left blank, and the repeated name is reported. A uniform of the
canvas may be declared again, and is found as it was declared. -/
theorem first_bad_reported_repeated :
    let a : Variable := ⟨"u_a", "float", ""⟩
    let time : Variable := ⟨"u_time", "int", ""⟩
    let s : Settings := { default with uniforms := [a, time, a, ⟨"\u00a0", "int", ""⟩] }
    let t : Settings := { default with uniforms := [time] }
    let content := "uniforms = [[\"u_time\", \"int\"]]".toList
    s.lookback ≠ 0 ∧ IsLeast {i | IsBadAt s.uniforms i} 2 ∧ ¬ IsUnnamed a
      ∧ s.firstFault? = some (.repeatedName "u_a")
      ∧ decoded? content = some t ∧ t.firstFault? = none ∧ ofText content = .ok t
      ∧ t.registry.uniform? "u_time" = some time
      ∧ firstFault? { t with uniforms := [] } = none := by
  intro a time s t content
  have hlookback : s.lookback ≠ 0 := by decide
  have hbefore : ∀ i, ¬ IsBadAt [a, time] i := forall_not_isBadAt_iff.2 (by decide)
  have hleast : IsLeast {i | IsBadAt s.uniforms i} 2 := by
    refine ⟨⟨a, rfl, .inr ⟨0, by decide, a, rfl, rfl⟩⟩, fun i hi => ?_⟩
    by_contra hlt
    have hi : IsBadAt ([a, time] ++ [a, ⟨"\u00a0", "int", ""⟩]) i := hi
    exact hbefore i ((isBadAt_append_iff (Nat.lt_of_not_le hlt)).1 hi)
  have hcontent : decoded? content = some t := by decide +kernel
  have hnone : t.firstFault? = none := by decide
  obtain ⟨-, hbad, -, -⟩ := first_bad_reported s
  obtain ⟨u, hu, -, hrepeated⟩ := (hbad hlookback).2 2 hleast
  obtain rfl := Option.some.inj hu
  obtain ⟨-, -, hread, hkept⟩ := first_bad_reported t
  exact ⟨hlookback, hleast, by decide, hrepeated (by decide), hcontent, hnone,
    ((hread content hcontent).1 t).2 ⟨hnone, rfl⟩, (hkept hnone).2 time List.mem_cons_self,
    (hkept hnone).1 [] List.nil_subperm⟩

end Settings

end GlslAssist
