import GlslAssist.Toml.Value
import Mathlib.Data.List.Forall2
import Mathlib.Data.List.Nodup

/-!
# Tables read key by key

A table is read entry by entry into a state, and each key fills a part of the state of its own. If no
key is repeated, such a part is in the end what its key's value was read as, or what it was before if
the key is absent (`gives_of_foldlM`). This does not depend on the order of the entries, so trees that
differ only in the order of entries within their tables (`Value.Reordered`) give the same.
-/

namespace GlslAssist.Toml

section Except

variable {ε α β σ : Type}

theorem bind_eq_ok_iff {x : Except ε α} {f : α → Except ε β} {b : β} :
    x.bind f = .ok b ↔ ∃ a, x = .ok a ∧ f a = .ok b := by
  rcases x with e | a
  · simp [Except.bind]
  · simp [Except.bind]

theorem map_eq_ok_iff {x : Except ε α} {f : α → β} {b : β} :
    x.map f = .ok b ↔ ∃ a, x = .ok a ∧ f a = b := by
  rcases x with e | a
  · simp [Except.map]
  · simp [Except.map]

theorem mapM_eq_ok_iff {f : α → Except ε β} {R : α → β → Prop} : ∀ {xs : List α} {ys : List β},
    (∀ x ∈ xs, ∀ y, f x = .ok y ↔ R x y) → (xs.mapM f = .ok ys ↔ List.Forall₂ R xs ys)
  | [], ys, _ => by
    rw [List.mapM_nil, List.forall₂_nil_left_iff]
    exact ⟨fun h => (Except.ok.inj h).symm, fun h => by rw [h]; rfl⟩
  | x :: xs, ys, h => by
    have ih {zs : List β} : xs.mapM f = .ok zs ↔ List.Forall₂ R xs zs :=
      mapM_eq_ok_iff fun z hz => h z (List.mem_cons_of_mem x hz)
    have hmap : (x :: xs).mapM f = (f x).bind fun y => (xs.mapM f).map fun zs => y :: zs := by
      rw [List.mapM_cons]
      rcases f x with e | y
      · rfl
      · rcases xs.mapM f with e | zs
        · rfl
        · rfl
    rw [hmap, List.forall₂_cons_left_iff, bind_eq_ok_iff]
    simp only [map_eq_ok_iff, ih, h x List.mem_cons_self]
    constructor
    · rintro ⟨y, hy, zs, hzs, rfl⟩
      exact ⟨y, zs, hy, hzs, rfl⟩
    · rintro ⟨y, zs, hy, hzs, rfl⟩
      exact ⟨y, hy, zs, hzs, rfl⟩

/-- Where the state never makes a step fail, all steps go through exactly when each of them can. -/
theorem exists_foldlM_iff {step : σ → α → Except ε σ} {Fits : α → Prop} : ∀ {xs : List α} {s : σ},
    (∀ x ∈ xs, ∀ s, (∃ s', step s x = .ok s') ↔ Fits x) →
      ((∃ s', xs.foldlM step s = .ok s') ↔ ∀ x ∈ xs, Fits x)
  | [], s, _ => ⟨fun _ => nofun, fun _ => ⟨s, rfl⟩⟩
  | x :: xs, s, h => by
    have ih {s : σ} : (∃ s', xs.foldlM step s = .ok s') ↔ ∀ z ∈ xs, Fits z :=
      exists_foldlM_iff fun z hz => h z (List.mem_cons_of_mem x hz)
    have hfold (s' : σ) : (x :: xs).foldlM step s = .ok s'
        ↔ ∃ s₁, step s x = .ok s₁ ∧ xs.foldlM step s₁ = .ok s' := by
      rw [List.foldlM_cons]
      exact bind_eq_ok_iff
    rw [List.forall_mem_cons, ← h x List.mem_cons_self s]
    constructor
    · rintro ⟨s', hs'⟩
      obtain ⟨s₁, hs₁, hrest⟩ := (hfold s').1 hs'
      exact ⟨⟨s₁, hs₁⟩, ih.1 ⟨s', hrest⟩⟩
    · rintro ⟨⟨s₁, hs₁⟩, hall⟩
      obtain ⟨s', hs'⟩ := ih.2 hall
      exact ⟨s', (hfold s').2 ⟨s₁, hs₁, hs'⟩⟩

end Except

/-! ## What a key gives -/

section Gives

variable {α ε σ : Type} {entries entries' : Entries} {key : String} {R : Value → α → Prop}
  {absent a b : α} {v w : Value}

/-- No key stands twice among the entries. -/
def DistinctKeys (entries : Entries) : Prop :=
  (entries.map Prod.fst).Nodup

/-- What the entries give for a key: something that its value is written for, or, where the key is
absent, a default. -/
def Gives (entries : Entries) (key : String) (R : Value → α → Prop) (absent a : α) : Prop :=
  (∃ v, (key, v) ∈ entries ∧ R v a) ∨ (∀ v, (key, v) ∉ entries) ∧ a = absent

/-- The same for a part that is nothing where its key is absent. -/
def IsGiven (R : Value → α → Prop) (v : Value) (o : Option α) : Prop :=
  ∃ a, R v a ∧ o = some a

theorem DistinctKeys.eq_of_mem (h : DistinctKeys entries) (hv : (key, v) ∈ entries)
    (hw : (key, w) ∈ entries) : v = w :=
  (Prod.mk.inj (List.inj_on_of_nodup_map h hv hw rfl)).2

theorem DistinctKeys.gives_iff_of_mem (h : DistinctKeys entries) (hv : (key, v) ∈ entries) :
    Gives entries key R absent a ↔ R v a := by
  constructor
  · rintro (⟨w, hw, hR⟩ | ⟨hnot, -⟩)
    · rwa [h.eq_of_mem hv hw]
    · exact absurd hv (hnot v)
  · exact fun hR => .inl ⟨v, hv, hR⟩

theorem Gives.unique (hd : DistinctKeys entries) (h : Gives entries key R absent a)
    (h' : Gives entries key R absent b) (hR : ∀ v, (key, v) ∈ entries → R v a → R v b → a = b) :
    a = b := by
  rcases h with ⟨v, hv, ha⟩ | ⟨hnot, rfl⟩
  · exact hR v hv ha ((hd.gives_iff_of_mem hv).1 h')
  · rcases h' with ⟨v, hv, -⟩ | ⟨-, rfl⟩
    · exact absurd hv (hnot v)
    · rfl

theorem Gives.exists_mem (h : Gives entries key (IsGiven R) none (some a)) :
    ∃ v, (key, v) ∈ entries ∧ R v a := by
  rcases h with ⟨v, hv, b, hb, heq⟩ | ⟨-, hnone⟩
  · exact ⟨v, hv, Option.some.inj heq ▸ hb⟩
  · cases hnone

theorem Gives.getD {o : Option α} (h : Gives entries key (IsGiven R) none o) :
    Gives entries key R absent (o.getD absent) := by
  rcases h with ⟨v, hv, a, ha, rfl⟩ | ⟨hnot, rfl⟩
  · exact .inl ⟨v, hv, ha⟩
  · exact .inr ⟨hnot, rfl⟩

/-- What a run over the entries leaves in a part of the state that only one key sets. -/
theorem gives_of_foldlM {step : σ → String × Value → Except ε σ} (get : σ → α) :
    ∀ {entries : Entries} {s s' : σ},
      (∀ e ∈ entries, ∀ s s', step s e = .ok s' →
        (e.1 = key → R e.2 (get s')) ∧ (e.1 ≠ key → get s' = get s)) →
      DistinctKeys entries → entries.foldlM step s = .ok s' →
        Gives entries key R (get s) (get s')
  | [], s, s', _, _, h => .inr ⟨fun _ => List.not_mem_nil, by rw [← Except.ok.inj h]⟩
  | (k, v) :: rest, s, s', hstep, hd, h => by
    rw [List.foldlM_cons] at h
    obtain ⟨s₁, hs₁, hrest⟩ := bind_eq_ok_iff.1 h
    obtain ⟨hnot, hd⟩ := List.nodup_cons.1 hd
    obtain ⟨hset, hkeep⟩ := hstep (k, v) List.mem_cons_self s s₁ hs₁
    have ih : Gives rest key R (get s₁) (get s') :=
      gives_of_foldlM get (fun e he => hstep e (List.mem_cons_of_mem _ he)) hd hrest
    by_cases hk : k = key
    · subst hk
      rcases ih with ⟨w, hw, -⟩ | ⟨-, heq⟩
      · exact absurd (List.mem_map_of_mem hw) hnot
      · exact .inl ⟨v, List.mem_cons_self, heq ▸ hset rfl⟩
    · rcases ih with ⟨w, hw, hR⟩ | ⟨habsent, heq⟩
      · exact .inl ⟨w, List.mem_cons_of_mem _ hw, hR⟩
      · refine .inr ⟨fun w hw => ?_, heq.trans (hkeep hk)⟩
        rcases List.mem_cons.1 hw with hw | hw
        · exact hk (Prod.mk.inj hw).1.symm
        · exact habsent w hw

end Gives

/-! ## Trees in another order -/

namespace Value

/-- No table of the tree has a key twice. -/
inductive Unrepeated : Value → Prop
  | string (s : String) : Unrepeated (.string s)
  | integer (n : Int) : Unrepeated (.integer n)
  | float (x : Decimal.Binary64) : Unrepeated (.float x)
  | boolean (b : Bool) : Unrepeated (.boolean b)
  | moment : Unrepeated .moment
  | array {items : List Value} : (∀ v ∈ items, Unrepeated v) → Unrepeated (.array items)
  | table {entries : Entries} :
    DistinctKeys entries → (∀ e ∈ entries, Unrepeated e.2) → Unrepeated (.table entries)

/-- The trees differ in nothing but the order of entries within their tables. -/
inductive Reordered : Value → Value → Prop
  | refl (v : Value) : Reordered v v
  | array {items items' : List Value} :
    List.Forall₂ Reordered items items' → Reordered (.array items) (.array items')
  | table {entries middle entries' : Entries} : entries.Perm middle →
    middle.map Prod.fst = entries'.map Prod.fst →
    List.Forall₂ Reordered (middle.map Prod.snd) (entries'.map Prod.snd) →
      Reordered (.table entries) (.table entries')

end Value

/-- Both tables have the same keys, and related values under each. -/
structure SameKeys (S : Value → Value → Prop) (entries entries' : Entries) : Prop where
  left : ∀ {key v}, (key, v) ∈ entries → ∃ w, (key, w) ∈ entries' ∧ S v w
  right : ∀ {key w}, (key, w) ∈ entries' → ∃ v, (key, v) ∈ entries ∧ S v w

/-- The trees look the same at their roots, and are related below. -/
inductive Matches (S : Value → Value → Prop) : Value → Value → Prop
  | string (s : String) : Matches S (.string s) (.string s)
  | integer (n : Int) : Matches S (.integer n) (.integer n)
  | float (x : Decimal.Binary64) : Matches S (.float x) (.float x)
  | boolean (b : Bool) : Matches S (.boolean b) (.boolean b)
  | moment : Matches S .moment .moment
  | array {items items' : List Value} :
    List.Forall₂ S items items' → Matches S (.array items) (.array items')
  | table {entries entries' : Entries} :
    SameKeys S entries entries' → Matches S (.table entries) (.table entries')

/-- Related trees match from their roots down. -/
def Simulation (S : Value → Value → Prop) : Prop :=
  ∀ ⦃v w⦄, S v w → Matches S v w

/-- What holds of a tree holds of every related one. -/
def Respects {α : Type} (S : Value → Value → Prop) (R : Value → α → Prop) : Prop :=
  ∀ ⦃v w a⦄, S v w → R v a → R w a

section Order

variable {α : Type} {S : Value → Value → Prop} {entries entries' : Entries} {key : String}
  {R : Value → α → Prop} {absent a : α} {v w : Value}

theorem SameKeys.swap (h : SameKeys S entries entries') :
    SameKeys (fun w v => S v w) entries' entries :=
  ⟨h.right, h.left⟩

theorem Simulation.swap (h : Simulation S) : Simulation fun w v => S v w := by
  intro w v hvw
  cases h hvw with
  | array hitems => exact .array hitems.flip
  | table hsame => exact .table hsame.swap
  | _ => constructor

theorem Gives.of_sameKeys (h : SameKeys S entries entries') (hR : Respects S R)
    (hg : Gives entries key R absent a) : Gives entries' key R absent a := by
  rcases hg with ⟨v, hv, ha⟩ | ⟨hnot, heq⟩
  · obtain ⟨w, hw, hS⟩ := h.left hv
    exact .inl ⟨w, hw, hR hS ha⟩
  · refine .inr ⟨fun w hw => ?_, heq⟩
    obtain ⟨v, hv, -⟩ := h.right hw
    exact hnot v hv

theorem Respects.isGiven (h : Respects S R) : Respects S (IsGiven R) :=
  fun _ _ _ hvw ⟨a, ha, heq⟩ => ⟨a, h hvw ha, heq⟩

theorem Respects.forall₂ (h : Respects S R) {items items' : List Value}
    (hitems : List.Forall₂ S items items') :
    ∀ {as : List α}, List.Forall₂ R items as → List.Forall₂ R items' as := by
  induction hitems with
  | nil => exact id
  | cons hvw _ ih =>
    intro as has
    obtain ⟨a, rest, ha, hrest, rfl⟩ := List.forall₂_cons_left_iff.1 has
    exact .cons (h hvw ha) (ih hrest)

theorem exists_mem_of_forall₂ : ∀ {entries entries' : Entries},
    entries.map Prod.fst = entries'.map Prod.fst →
      List.Forall₂ S (entries.map Prod.snd) (entries'.map Prod.snd) →
        (key, v) ∈ entries → ∃ w, (key, w) ∈ entries' ∧ S v w
  | (k, u) :: rest, (k', u') :: rest', hkeys, hvalues, h => by
    obtain ⟨hk, hkeys⟩ := List.cons.inj hkeys
    obtain ⟨hu, hvalues⟩ := List.forall₂_cons.1 hvalues
    rcases List.mem_cons.1 h with heq | h
    · obtain ⟨rfl, rfl⟩ := Prod.mk.inj heq
      obtain rfl : key = k' := hk
      exact ⟨u', List.mem_cons_self, hu⟩
    · obtain ⟨w, hw, hS⟩ := exists_mem_of_forall₂ hkeys hvalues h
      exact ⟨w, List.mem_cons_of_mem _ hw, hS⟩

theorem sameKeys_of_perm {middle : Entries} (hperm : entries.Perm middle)
    (hkeys : middle.map Prod.fst = entries'.map Prod.fst)
    (hvalues : List.Forall₂ S (middle.map Prod.snd) (entries'.map Prod.snd)) :
    SameKeys S entries entries' := by
  constructor
  · exact fun hv => exists_mem_of_forall₂ hkeys hvalues (hperm.mem_iff.1 hv)
  · intro key w hw
    obtain ⟨v, hv, hS⟩ := exists_mem_of_forall₂ hkeys.symm hvalues.flip hw
    exact ⟨v, hperm.mem_iff.2 hv, hS⟩

namespace Value

theorem simulation_reordered : Simulation Reordered := by
  intro v w h
  cases h with
  | refl =>
    cases v with
    | array => exact .array (List.forall₂_same.2 fun v _ => .refl v)
    | table => exact .table ⟨fun {_ v} hv => ⟨v, hv, .refl v⟩, fun {_ v} hv => ⟨v, hv, .refl v⟩⟩
    | _ => constructor
  | array hitems => exact .array hitems
  | table hperm hkeys hvalues => exact .table (sameKeys_of_perm hperm hkeys hvalues)

attribute [simp] Unrepeated.string Unrepeated.integer Unrepeated.float Unrepeated.boolean
  Unrepeated.moment

@[simp] theorem unrepeated_array_iff {items : List Value} :
    Unrepeated (.array items) ↔ ∀ v ∈ items, v.Unrepeated := by
  constructor
  · rintro ⟨⟩
    assumption
  · exact .array

@[simp] theorem unrepeated_table_iff : Unrepeated (.table entries)
    ↔ DistinctKeys entries ∧ ∀ e ∈ entries, e.2.Unrepeated := by
  constructor
  · rintro ⟨⟩
    exact ⟨‹_›, ‹_›⟩
  · exact fun ⟨hd, hvalues⟩ => .table hd hvalues

theorem distinctKeys_of_reordered (h : Reordered (.table entries) (.table entries'))
    (hd : DistinctKeys entries) : DistinctKeys entries' := by
  cases h with
  | refl => exact hd
  | table hperm hkeys _ =>
    rw [DistinctKeys, ← hkeys]
    exact (hperm.map Prod.fst).nodup_iff.1 hd

theorem exists_of_forall₂ {items items' : List Value} (h : List.Forall₂ S items items') :
    ∀ w ∈ items', ∃ v ∈ items, S v w := by
  induction h with
  | nil => exact nofun
  | cons hS _ ih =>
    intro w hw
    rcases List.mem_cons.1 hw with rfl | hw
    · exact ⟨_, List.mem_cons_self, hS⟩
    · obtain ⟨v, hv, hvw⟩ := ih w hw
      exact ⟨v, List.mem_cons_of_mem _ hv, hvw⟩

theorem Unrepeated.reordered (hv : v.Unrepeated) : ∀ {w}, Reordered v w → w.Unrepeated := by
  induction hv with
  | array _ ih =>
    intro w h
    cases simulation_reordered h with
    | array hitems =>
      refine .array fun w hw => ?_
      obtain ⟨v, hv, hvw⟩ := exists_of_forall₂ hitems w hw
      exact ih v hv hvw
  | table hd _ ih =>
    intro w h
    cases simulation_reordered h with
    | table hsame =>
      refine .table (distinctKeys_of_reordered h hd) fun e he => ?_
      obtain ⟨v, hv, hvw⟩ := hsame.right he
      exact ih _ hv hvw
  | _ =>
    intro w h
    cases h
    constructor

end Value

end Order

end GlslAssist.Toml
