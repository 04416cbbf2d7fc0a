import GlslAssist.Proofs.KeyedTables
import GlslAssist.Settings.Decoding
import Mathlib.Tactic.SplitIfs

/-!
# The shapes of settings

Settings are read from a tree exactly where each entry is a known field whose value has the shape of
that field (`IsField`). What is read is then what the fields say, with the defaults for those that are
left out (`Says`).

The shapes are written here as relations between a value and what it is written for, apart from the
functions that read it. One step of reading sets the part of the result that its key names and nothing
else (`SetsField`, `SetsDraft`), and what a whole table gives follows from this step by step.
-/

namespace GlslAssist

open Toml (Value Entries DistinctKeys Gives IsGiven bind_eq_ok_iff map_eq_ok_iff)

namespace Settings

variable {v : Value} {entries : Entries} {key t : String} {s s' : Settings} {n : Nat} {u : Variable}

/-- A text. -/
def IsText (v : Value) (t : String) : Prop :=
  v = .string t

/-- A natural number of thirty-two bits. -/
def IsCount (v : Value) (n : Nat) : Prop :=
  v = .integer n ∧ n < Decimal.wordLimit

/-- An array of values of one shape. -/
def IsListOf {α : Type} (R : Value → α → Prop) (v : Value) (as : List α) : Prop :=
  ∃ items, v = .array items ∧ List.Forall₂ R items as

/-- The lookback, in a table that has no other key, or first in an array. Either may leave it out. -/
inductive IsLookback : Value → Nat → Prop
  | table {entries : Entries} {n : Nat} : (∀ e ∈ entries, e.1 = "lookback_lines") →
    Gives entries "lookback_lines" IsCount default.lookback n → IsLookback (.table entries) n
  | empty : IsLookback (.array []) default.lookback
  | listed {v : Value} {rest : List Value} {n : Nat} : IsCount v n → IsLookback (.array (v :: rest)) n

/-- A uniform, in a table that may have any other keys, or in an array whose further items count for
nothing. A description may be left out. -/
inductive IsUniform : Value → Variable → Prop
  | table {entries : Entries} {name type description : String} :
    ("name", .string name) ∈ entries → ("type", .string type) ∈ entries →
      Gives entries "description" IsText "" description →
        IsUniform (.table entries) ⟨name, type, description⟩
  | pair {v w : Value} {name type : String} : IsText v name → IsText w type →
    IsUniform (.array [v, w]) ⟨name, type, ""⟩
  | listed {v w d : Value} {rest : List Value} {name type description : String} : IsText v name →
    IsText w type → IsText d description →
      IsUniform (.array (v :: w :: d :: rest)) ⟨name, type, description⟩

/-- One of the four fields, with a value of its shape. -/
inductive IsField : String → Value → Prop
  | logLevel {v : Value} {t : String} : IsText v t → IsField "log_level" v
  | extensions {v : Value} {ts : List String} : IsListOf IsText v ts → IsField "extensions" v
  | signatureHelp {v : Value} {n : Nat} : IsLookback v n → IsField "signature_help" v
  | uniforms {v : Value} {us : List Variable} : IsListOf IsUniform v us → IsField "uniforms" v

/-- The settings are what the entries give for each field. -/
structure Says (entries : Entries) (s : Settings) : Prop where
  logLevel : Gives entries "log_level" (IsGiven IsText) none s.logLevel
  extensions : Gives entries "extensions" (IsListOf IsText) default.extensions s.extensions
  lookback : Gives entries "signature_help" IsLookback default.lookback s.lookback
  uniforms : Gives entries "uniforms" (IsListOf IsUniform) default.uniforms s.uniforms

/-! ## Values -/

theorem text_eq_ok_iff : text v = .ok t ↔ IsText v t := by
  rw [IsText]
  cases v with
  | string => simp [text]
  | _ => simp [text]

theorem count_eq_ok_iff : count v = .ok n ↔ IsCount v n := by
  rw [IsCount]
  cases v with
  | integer m =>
    simp only [count, Decimal.below?, Value.integer.injEq]
    split_ifs with h
    · simp only [Except.ok.injEq]
      omega
    · simp only [false_iff]
      omega
  | _ => simp [count]

theorem items_eq_ok_iff {items' : List Value} : items v = .ok items' ↔ v = .array items' := by
  cases v with
  | array => simp [items]
  | _ => simp [items]

theorem list_eq_ok_iff {α : Type} {f : Value → Decoded α} {R : Value → α → Prop} {as : List α}
    (h : ∀ items, v = .array items → ∀ w ∈ items, ∀ a, f w = .ok a ↔ R w a) :
    (items v).bind (List.mapM f) = .ok as ↔ IsListOf R v as := by
  simp only [bind_eq_ok_iff, items_eq_ok_iff, IsListOf]
  refine exists_congr fun items => and_congr_right fun hv => ?_
  exact Toml.mapM_eq_ok_iff (h items hv)

theorem lookbackFrom_eq_ok_iff {m : Nat} (hd : DistinctKeys entries) :
    lookbackFrom m entries = .ok n
      ↔ (∀ e ∈ entries, e.1 = "lookback_lines") ∧ Gives entries "lookback_lines" IsCount m n := by
  rcases entries with _ | ⟨⟨key, v⟩, _ | ⟨⟨key', w⟩, rest⟩⟩
  · simp [lookbackFrom, Gives, eq_comm]
  · rw [lookbackFrom]
    split_ifs with hkey
    · subst hkey
      rw [hd.gives_iff_of_mem List.mem_cons_self, ← count_eq_ok_iff]
      rcases count v with e | k
      · simp
      · simp [lookbackFrom]
    · simp [hkey]
  · -- two entries are refused on both sides: one of them has another key
    have hne : key ≠ key' := by
      rintro rfl
      simp [DistinctKeys] at hd
    refine iff_of_false (fun h => ?_) fun h => ?_
    · rw [lookbackFrom] at h
      split_ifs at h with hkey
      rcases hcount : count v with e | k
      · simp [hcount] at h
      · simp [hcount, lookbackFrom, hkey ▸ hne.symm] at h
    · exact hne ((h.1 (key, v) (by simp)).trans (h.1 (key', w) (by simp)).symm)

theorem lookbackOf_eq_ok_iff (h : v.Unrepeated) : lookbackOf v = .ok n ↔ IsLookback v n := by
  cases h with
  | table hd =>
    rw [lookbackOf, lookbackFrom_eq_ok_iff hd]
    constructor
    · exact fun ⟨hkeys, hn⟩ => .table hkeys hn
    · rintro ⟨hkeys, hn⟩
      exact ⟨hkeys, hn⟩
  | @array items =>
    rcases items with _ | ⟨w, rest⟩
    · rw [lookbackOf, Except.ok.injEq]
      constructor
      · rintro rfl
        exact .empty
      · rintro ⟨⟩
        rfl
    · rw [lookbackOf, count_eq_ok_iff]
      constructor
      · exact .listed
      · rintro ⟨⟩
        assumption
  | _ =>
    simp only [lookbackOf, reduceCtorEq, false_iff]
    rintro ⟨⟩

/-- What one entry of a table does to the uniform that is read from it. -/
inductive SetsDraft (draft : UniformDraft) : String → Value → UniformDraft → Prop
  | name {v : Value} {t : String} : IsText v t →
    SetsDraft draft "name" v { draft with name := some t }
  | type {v : Value} {t : String} : IsText v t →
    SetsDraft draft "type" v { draft with type := some t }
  | description {v : Value} {t : String} : IsText v t →
    SetsDraft draft "description" v { draft with description := some t }
  | other {key : String} {v : Value} : key ∉ ["name", "type", "description"] →
    SetsDraft draft key v draft

theorem add_eq_ok_iff {draft draft' : UniformDraft} :
    draft.add key v = .ok draft' ↔ SetsDraft draft key v draft' := by
  rw [UniformDraft.add]
  constructor
  · intro h
    split_ifs at h with hname htype hdescription
    · obtain ⟨t, ht, rfl⟩ := map_eq_ok_iff.1 h
      exact hname ▸ .name (text_eq_ok_iff.1 ht)
    · obtain ⟨t, ht, rfl⟩ := map_eq_ok_iff.1 h
      exact htype ▸ .type (text_eq_ok_iff.1 ht)
    · obtain ⟨t, ht, rfl⟩ := map_eq_ok_iff.1 h
      exact hdescription ▸ .description (text_eq_ok_iff.1 ht)
    · obtain rfl := Except.ok.inj h
      exact .other (by simp [hname, htype, hdescription])
  · intro h
    cases h with
    | name ht => simp [text_eq_ok_iff.2 ht, Except.map]
    | type ht => simp [text_eq_ok_iff.2 ht, Except.map]
    | description ht => simp [text_eq_ok_iff.2 ht, Except.map]
    | other hkey =>
      simp only [List.mem_cons, List.not_mem_nil, or_false, not_or] at hkey
      simp [hkey]

theorem finish_eq_ok_iff {draft : UniformDraft} : draft.finish = .ok u
    ↔ ∃ name type, draft.name = some name ∧ draft.type = some type
      ∧ u = ⟨name, type, draft.description.getD ""⟩ := by
  rw [UniformDraft.finish]
  rcases draft with ⟨_ | name, _ | type, description⟩
  · simp
  · simp
  · simp
  · simp [eq_comm]

/-- The uniform that is read from a table with its fields. -/
theorem gives_of_draft {draft : UniformDraft} (hd : DistinctKeys entries)
    (h : entries.foldlM (fun draft (key, v) => UniformDraft.add draft key v) .start = .ok draft) :
    Gives entries "name" (IsGiven IsText) none draft.name
      ∧ Gives entries "type" (IsGiven IsText) none draft.type
      ∧ Gives entries "description" (IsGiven IsText) none draft.description := by
  refine ⟨Toml.gives_of_foldlM UniformDraft.name (fun e _ d d' hstep => ?_) hd h,
    Toml.gives_of_foldlM UniformDraft.type (fun e _ d d' hstep => ?_) hd h,
    Toml.gives_of_foldlM UniformDraft.description (fun e _ d d' hstep => ?_) hd h⟩
  all_goals
    obtain ⟨key, v⟩ := e
    cases add_eq_ok_iff.1 hstep with
    | name ht => simp [IsGiven, ht]
    | type ht => simp [IsGiven, ht]
    | description ht => simp [IsGiven, ht]
    | other hkey =>
      refine ⟨?_, fun _ => rfl⟩
      rintro rfl
      simp at hkey

theorem exists_draft_iff : (∃ draft, entries.foldlM
      (fun draft (key, v) => UniformDraft.add draft key v) .start = .ok draft)
    ↔ ∀ e ∈ entries, e.1 ∈ ["name", "type", "description"] → ∃ t, IsText e.2 t := by
  refine Toml.exists_foldlM_iff fun e _ draft => ?_
  obtain ⟨key, v⟩ := e
  constructor
  · rintro ⟨draft', h⟩
    cases add_eq_ok_iff.1 h with
    | name ht => exact fun _ => ⟨_, ht⟩
    | type ht => exact fun _ => ⟨_, ht⟩
    | description ht => exact fun _ => ⟨_, ht⟩
    | other hkey => exact fun h => absurd h hkey
  · intro h
    by_cases hkey : key ∈ ["name", "type", "description"]
    · obtain ⟨t, ht⟩ := h hkey
      simp only [List.mem_cons, List.not_mem_nil, or_false] at hkey
      rcases hkey with rfl | rfl | rfl
      · exact ⟨_, add_eq_ok_iff.2 (.name ht)⟩
      · exact ⟨_, add_eq_ok_iff.2 (.type ht)⟩
      · exact ⟨_, add_eq_ok_iff.2 (.description ht)⟩
    · exact ⟨_, add_eq_ok_iff.2 (.other hkey)⟩

theorem uniformOf_table_iff (hd : DistinctKeys entries) :
    uniformOf (.table entries) = .ok u ↔ IsUniform (.table entries) u := by
  rw [uniformOf, bind_eq_ok_iff]
  constructor
  · rintro ⟨draft, hdraft, hfinish⟩
    obtain ⟨hname, htype, hdescription⟩ := gives_of_draft hd hdraft
    obtain ⟨name, type, hname', htype', rfl⟩ := finish_eq_ok_iff.1 hfinish
    rw [hname'] at hname
    rw [htype'] at htype
    obtain ⟨_, hname, rfl⟩ := hname.exists_mem
    obtain ⟨_, htype, rfl⟩ := htype.exists_mem
    exact .table hname htype hdescription.getD
  · rintro (@⟨_, name, type, description, hname, htype, hdescription⟩)
    -- every entry under the three names is one of those given, since no name stands twice
    obtain ⟨draft, hdraft⟩ := exists_draft_iff.2 fun e he hkey => by
      obtain ⟨key, v⟩ := e
      simp only [List.mem_cons, List.not_mem_nil, or_false] at hkey
      rcases hkey with rfl | rfl | rfl
      · exact ⟨name, hd.eq_of_mem he hname⟩
      · exact ⟨type, hd.eq_of_mem he htype⟩
      · rcases hdescription with ⟨w, hw, ht⟩ | ⟨hnot, -⟩
        · exact ⟨description, hd.eq_of_mem he hw ▸ ht⟩
        · exact absurd he (hnot v)
    obtain ⟨hname', htype', hdescription'⟩ := gives_of_draft hd hdraft
    rw [hd.gives_iff_of_mem hname] at hname'
    rw [hd.gives_iff_of_mem htype] at htype'
    obtain ⟨_, ⟨⟩, hname'⟩ := hname'
    obtain ⟨_, ⟨⟩, htype'⟩ := htype'
    refine ⟨draft, hdraft, finish_eq_ok_iff.2 ⟨name, type, hname', htype', ?_⟩⟩
    rw [hdescription.unique hd (hdescription'.getD) fun v _ h h' =>
      Value.string.inj (h.symm.trans h')]

theorem listedUniform_eq_ok_iff {items : List Value} :
    listedUniform items = .ok u ↔ IsUniform (.array items) u := by
  rcases items with _ | ⟨v, _ | ⟨w, _ | ⟨d, rest⟩⟩⟩
  · simp only [listedUniform, reduceCtorEq, false_iff]
    rintro ⟨⟩
  · simp only [listedUniform, bind_eq_ok_iff, reduceCtorEq, and_false, exists_false, false_iff]
    rintro ⟨⟩
  · simp only [listedUniform, bind_eq_ok_iff, text_eq_ok_iff, Except.ok.injEq]
    constructor
    · rintro ⟨name, hname, type, htype, rfl⟩
      exact .pair hname htype
    · rintro (_ | @⟨_, _, name, type, hname, htype⟩)
      exact ⟨name, hname, type, htype, rfl⟩
  · simp only [listedUniform, bind_eq_ok_iff, map_eq_ok_iff, text_eq_ok_iff]
    constructor
    · rintro ⟨name, hname, type, htype, description, hdescription, rfl⟩
      exact .listed hname htype hdescription
    · rintro (_ | _ | @⟨_, _, _, _, name, type, description, hname, htype, hdescription⟩)
      exact ⟨name, hname, type, htype, description, hdescription, rfl⟩

theorem uniformOf_eq_ok_iff (h : v.Unrepeated) : uniformOf v = .ok u ↔ IsUniform v u := by
  cases h with
  | table hd => exact uniformOf_table_iff hd
  | array => exact listedUniform_eq_ok_iff
  | moment =>
    simp only [uniformOf, UniformDraft.finish, UniformDraft.start, reduceCtorEq, false_iff]
    rintro ⟨⟩
  | _ =>
    simp only [uniformOf, reduceCtorEq, false_iff]
    rintro ⟨⟩

/-! ## Fields -/

/-- What one entry of the document does to the settings. -/
inductive SetsField (s : Settings) : String → Value → Settings → Prop
  | logLevel {v : Value} {t : String} : IsText v t →
    SetsField s "log_level" v { s with logLevel := some t }
  | extensions {v : Value} {ts : List String} : IsListOf IsText v ts →
    SetsField s "extensions" v { s with extensions := ts }
  | signatureHelp {v : Value} {n : Nat} : IsLookback v n →
    SetsField s "signature_help" v { s with lookback := n }
  | uniforms {v : Value} {us : List Variable} : IsListOf IsUniform v us →
    SetsField s "uniforms" v { s with uniforms := us }

theorem texts_eq_ok_iff {ts : List String} :
    (items v).bind (List.mapM text) = .ok ts ↔ IsListOf IsText v ts :=
  list_eq_ok_iff fun _ _ _ _ _ => text_eq_ok_iff

theorem uniforms_eq_ok_iff (h : v.Unrepeated) {us : List Variable} :
    (items v).bind (List.mapM uniformOf) = .ok us ↔ IsListOf IsUniform v us := by
  refine list_eq_ok_iff fun items hv w hw u => uniformOf_eq_ok_iff ?_
  exact Value.unrepeated_array_iff.1 (hv ▸ h) w hw

theorem setField_eq_ok_iff (h : v.Unrepeated) :
    setField s key v = .ok s' ↔ SetsField s key v s' := by
  rw [setField]
  constructor
  · intro hs
    split_ifs at hs with hlevel hextensions hhelp huniforms
    · obtain ⟨t, ht, rfl⟩ := map_eq_ok_iff.1 hs
      exact hlevel ▸ .logLevel (text_eq_ok_iff.1 ht)
    · obtain ⟨ts, hts, rfl⟩ := map_eq_ok_iff.1 hs
      exact hextensions ▸ .extensions (texts_eq_ok_iff.1 hts)
    · obtain ⟨n, hn, rfl⟩ := map_eq_ok_iff.1 hs
      exact hhelp ▸ .signatureHelp ((lookbackOf_eq_ok_iff h).1 hn)
    · obtain ⟨us, hus, rfl⟩ := map_eq_ok_iff.1 hs
      exact huniforms ▸ .uniforms ((uniforms_eq_ok_iff h).1 hus)
  · intro hs
    cases hs with
    | logLevel ht => simp [text_eq_ok_iff.2 ht, Except.map]
    | extensions hts => simp [texts_eq_ok_iff.2 hts, Except.map]
    | signatureHelp hn => simp [(lookbackOf_eq_ok_iff h).2 hn, Except.map]
    | uniforms hus => simp [(uniforms_eq_ok_iff h).2 hus, Except.map]

theorem exists_setsField_iff : (∃ s', SetsField s key v s') ↔ IsField key v := by
  constructor
  · rintro ⟨s', hs⟩
    cases hs with
    | logLevel ht => exact .logLevel ht
    | extensions hts => exact .extensions hts
    | signatureHelp hn => exact .signatureHelp hn
    | uniforms hus => exact .uniforms hus
  · intro h
    cases h with
    | logLevel ht => exact ⟨_, .logLevel ht⟩
    | extensions hts => exact ⟨_, .extensions hts⟩
    | signatureHelp hn => exact ⟨_, .signatureHelp hn⟩
    | uniforms hus => exact ⟨_, .uniforms hus⟩

theorem exists_ofEntries_iff (h : ∀ e ∈ entries, e.2.Unrepeated) :
    (∃ s, ofEntries entries = .ok s) ↔ ∀ e ∈ entries, IsField e.1 e.2 := by
  refine Toml.exists_foldlM_iff fun e he s => ?_
  rw [← exists_setsField_iff]
  exact exists_congr fun s' => setField_eq_ok_iff (h e he)

theorem says_of_ofEntries (hd : DistinctKeys entries) (h : ∀ e ∈ entries, e.2.Unrepeated)
    (hs : ofEntries entries = .ok s) : Says entries s := by
  refine ⟨Toml.gives_of_foldlM Settings.logLevel (fun e he s s' hstep => ?_) hd hs,
    Toml.gives_of_foldlM Settings.extensions (fun e he s s' hstep => ?_) hd hs,
    Toml.gives_of_foldlM Settings.lookback (fun e he s s' hstep => ?_) hd hs,
    Toml.gives_of_foldlM Settings.uniforms (fun e he s s' hstep => ?_) hd hs⟩
  all_goals
    obtain ⟨key, v⟩ := e
    cases (setField_eq_ok_iff (h _ he)).1 hstep with
    | logLevel ht => simp [IsGiven, ht]
    | extensions hts => simp [hts]
    | signatureHelp hn => simp [hn]
    | uniforms hus => simp [hus]

end Settings

end GlslAssist
