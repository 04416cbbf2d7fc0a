import GlslAssist.Proofs.SettingsShape

/-!
# Settings in any order

The shapes of settings look at a tree through its texts, integers, arrays and the keys of its tables
only, so they hold of a tree however the entries of its tables are ordered (`Respects`). Reading
stops at the first entry that does not fit, which may be another one in another order, but whether it
comes to settings, and to which, is the same (`shaped_in_any_order`).
-/

namespace GlslAssist

open Toml (Value Entries DistinctKeys Simulation SameKeys Respects)

namespace Settings

variable {S : Value → Value → Prop} {v w : Value} {entries entries' : Entries} {key : String}
  {s s' : Settings}

/-! ## Shapes of related trees -/

theorem isText_respects (hS : Simulation S) : Respects S IsText := by
  rintro v w t h rfl
  cases hS h
  rfl

theorem isCount_respects (hS : Simulation S) : Respects S IsCount := by
  rintro v w n h ⟨rfl, hn⟩
  cases hS h
  exact ⟨rfl, hn⟩

theorem isListOf_respects {α : Type} {R : Value → α → Prop} (hS : Simulation S)
    (hR : Respects S R) : Respects S (IsListOf R) := by
  rintro v w as h ⟨items, rfl, has⟩
  cases hS h with
  | array hitems => exact ⟨_, rfl, hR.forall₂ hitems has⟩

theorem isLookback_respects (hS : Simulation S) : Respects S IsLookback := by
  intro v w n h hv
  have hcount := isCount_respects hS
  cases hv with
  | table hkeys hn =>
    cases hS h with
    | table hsame =>
      refine .table ?_ (hn.of_sameKeys hsame hcount)
      rintro ⟨key, w⟩ hw
      obtain ⟨v, hv, -⟩ := hsame.right hw
      exact hkeys (key, v) hv
  | empty =>
    cases hS h with
    | array hitems =>
      obtain rfl := List.forall₂_nil_left_iff.1 hitems
      exact .empty
  | listed hn =>
    cases hS h with
    | array hitems =>
      obtain ⟨w, rest, hw, -, rfl⟩ := List.forall₂_cons_left_iff.1 hitems
      exact .listed (hcount hw hn)

theorem isUniform_respects (hS : Simulation S) : Respects S IsUniform := by
  intro v w u h hv
  have htext := isText_respects hS
  cases hv with
  | table hname htype hdescription =>
    cases hS h with
    | table hsame =>
      obtain ⟨v, hname', hv⟩ := hsame.left hname
      obtain ⟨w, htype', hw⟩ := hsame.left htype
      obtain rfl : v = _ := htext hv rfl
      obtain rfl : w = _ := htext hw rfl
      exact .table hname' htype' (hdescription.of_sameKeys hsame htext)
  | pair hname htype =>
    cases hS h with
    | array hitems =>
      obtain ⟨v', _, hv, htail, rfl⟩ := List.forall₂_cons_left_iff.1 hitems
      obtain ⟨w', _, hw, hrest, rfl⟩ := List.forall₂_cons_left_iff.1 htail
      obtain rfl := List.forall₂_nil_left_iff.1 hrest
      exact .pair (htext hv hname) (htext hw htype)
  | listed hname htype hdescription =>
    cases hS h with
    | array hitems =>
      obtain ⟨v', _, hv, htail, rfl⟩ := List.forall₂_cons_left_iff.1 hitems
      obtain ⟨w', _, hw, hrest, rfl⟩ := List.forall₂_cons_left_iff.1 htail
      obtain ⟨d', _, hd, -, rfl⟩ := List.forall₂_cons_left_iff.1 hrest
      exact .listed (htext hv hname) (htext hw htype) (htext hd hdescription)

theorem IsField.of_simulation (hS : Simulation S) (h : S v w) (hv : IsField key v) :
    IsField key w := by
  cases hv with
  | logLevel ht => exact .logLevel (isText_respects hS h ht)
  | extensions hts => exact .extensions (isListOf_respects hS (isText_respects hS) h hts)
  | signatureHelp hn => exact .signatureHelp (isLookback_respects hS h hn)
  | uniforms hus => exact .uniforms (isListOf_respects hS (isUniform_respects hS) h hus)

theorem Says.of_sameKeys (hS : Simulation S) (h : SameKeys S entries entries')
    (hs : Says entries s) : Says entries' s where
  logLevel := hs.logLevel.of_sameKeys h (isText_respects hS).isGiven
  extensions := hs.extensions.of_sameKeys h (isListOf_respects hS (isText_respects hS))
  lookback := hs.lookback.of_sameKeys h (isLookback_respects hS)
  uniforms := hs.uniforms.of_sameKeys h (isListOf_respects hS (isUniform_respects hS))

/-! ## One reading -/

/-- What a reader accepts a value for is one thing. -/
theorem unique_of_ok {α : Type} {x : Decoded α} {R : Value → α → Prop} {a b : α}
    (h : ∀ {a}, x = .ok a ↔ R v a) (ha : R v a) (hb : R v b) : a = b :=
  Except.ok.inj ((h.2 ha).symm.trans (h.2 hb))

theorem Says.unique (hd : DistinctKeys entries) (h : ∀ e ∈ entries, e.2.Unrepeated)
    (hs : Says entries s) (hs' : Says entries s') : s = s' := by
  have hlevel : s.logLevel = s'.logLevel := by
    refine hs.logLevel.unique hd hs'.logLevel ?_
    rintro v - ⟨t, ht, hlevel⟩ ⟨t', ht', hlevel'⟩
    rw [hlevel, hlevel', unique_of_ok text_eq_ok_iff ht ht']
  have hextensions : s.extensions = s'.extensions :=
    hs.extensions.unique hd hs'.extensions fun v _ => unique_of_ok texts_eq_ok_iff
  have hlookback : s.lookback = s'.lookback :=
    hs.lookback.unique hd hs'.lookback fun v hv => unique_of_ok (lookbackOf_eq_ok_iff (h _ hv))
  have huniforms : s.uniforms = s'.uniforms :=
    hs.uniforms.unique hd hs'.uniforms fun v hv => unique_of_ok (uniforms_eq_ok_iff (h _ hv))
  cases s
  cases s'
  simp_all

theorem ofEntries_eq_ok_iff (h : Value.Unrepeated (.table entries)) :
    ofEntries entries = .ok s ↔ (∀ e ∈ entries, IsField e.1 e.2) ∧ Says entries s := by
  obtain ⟨hd, hvalues⟩ := Value.unrepeated_table_iff.1 h
  constructor
  · exact fun hs => ⟨(exists_ofEntries_iff hvalues).1 ⟨s, hs⟩, says_of_ofEntries hd hvalues hs⟩
  · rintro ⟨hfields, hread⟩
    obtain ⟨s', hs'⟩ := (exists_ofEntries_iff hvalues).2 hfields
    rw [hs', hread.unique hd hvalues (says_of_ofEntries hd hvalues hs')]

theorem ofEntries_of_sameKeys (hS : Simulation S) (hsame : SameKeys S entries entries')
    (h : Value.Unrepeated (.table entries)) (h' : Value.Unrepeated (.table entries'))
    (hs : ofEntries entries = .ok s) : ofEntries entries' = .ok s := by
  obtain ⟨hfields, hread⟩ := (ofEntries_eq_ok_iff h).1 hs
  refine (ofEntries_eq_ok_iff h').2 ⟨?_, hread.of_sameKeys hS hsame⟩
  rintro ⟨key, w⟩ hw
  obtain ⟨v, hv, hvw⟩ := hsame.right hw
  exact (hfields (key, v) hv).of_simulation hS hvw

/-- A tree in which no table repeats a key comes to settings exactly where each of its entries is one
of the four fields, with a value of its shape. These are the settings that the fields say, with the
defaults where one is left out, and are the same for every order of the entries in the tree's
tables. -/
theorem shaped_in_any_order {entries : Entries} (h : Value.Unrepeated (.table entries)) :
    ((∃ s, ofEntries entries = .ok s) ↔ ∀ e ∈ entries, IsField e.1 e.2)
      ∧ (∀ s, ofEntries entries = .ok s ↔ (∀ e ∈ entries, IsField e.1 e.2) ∧ Says entries s)
      ∧ ∀ entries', Value.Reordered (.table entries) (.table entries') →
        ∀ s, ofEntries entries = .ok s ↔ ofEntries entries' = .ok s := by
  refine ⟨exists_ofEntries_iff (Value.unrepeated_table_iff.1 h).2, fun s => ofEntries_eq_ok_iff h,
    fun entries' hreordered s => ?_⟩
  have hS := Value.simulation_reordered
  have h' := h.reordered hreordered
  cases hS hreordered with
  | table hsame =>
    constructor
    · exact ofEntries_of_sameKeys hS hsame h h'
    · exact ofEntries_of_sameKeys hS.swap hsame.swap h' h

/-- A uniform may have keys of its own, and either form of a uniform may leave its description out. -/
theorem shaped_in_any_order_nested :
    let size : String × Value := ("size", .integer 3)
    let type : String × Value := ("type", .string "vec2")
    let name : String × Value := ("name", .string "u_tip")
    let level : String × Value := ("log_level", .string "debug")
    let listed : Value := .array [.string "u_age", .string "float"]
    let entries : Entries := [("uniforms", .array [.table [size, type, name], listed]), level]
    let entries' : Entries := [level, ("uniforms", .array [.table [name, size, type], listed])]
    let s : Settings := { default with
      logLevel := some "debug", uniforms := [⟨"u_tip", "vec2", ""⟩, ⟨"u_age", "float", ""⟩] }
    Value.Unrepeated (.table entries) ∧ ofEntries entries = .ok s ∧ Says entries s
      ∧ (∀ e ∈ entries, IsField e.1 e.2)
      ∧ Value.Reordered (.table entries) (.table entries') ∧ ofEntries entries' = .ok s := by
  intro size type name level listed entries entries' s
  have h : Value.Unrepeated (.table entries) := by
    simp [entries, size, type, name, level, listed, DistinctKeys]
  have hperm : [size, type, name].Perm [name, size, type] :=
    List.perm_append_singleton name [size, type]
  have htable : Value.Reordered (.table [size, type, name]) (.table [name, size, type]) :=
    .table hperm rfl (List.forall₂_same.2 fun v _ => .refl v)
  have hreordered : Value.Reordered (.table entries) (.table entries') :=
    .table (.swap _ _ []) rfl (.cons (.refl _) (.cons (.array (.cons htable
      (.cons (.refl listed) .nil))) .nil))
  have hs : ofEntries entries = .ok s := rfl
  obtain ⟨hfields, hread, horder⟩ := shaped_in_any_order h
  exact ⟨h, hs, ((hread s).1 hs).2, hfields.1 ⟨s, hs⟩, hreordered,
    (horder entries' hreordered s).1 hs⟩

end Settings

end GlslAssist
