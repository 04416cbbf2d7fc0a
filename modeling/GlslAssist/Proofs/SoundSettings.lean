import GlslAssist.Settings.Decoding
import Mathlib.Tactic.SplitIfs

/-!
# Sound settings

Settings without a fault are the sound ones (`firstFault?_eq_none_iff`), and no others are read from
a text (`sound_of_ofText`).
-/

namespace GlslAssist

namespace Settings

variable {s : Settings} {content : List Char}

/-- Settings that can be meant: some lines are looked at above the cursor, and the uniforms have names
of their own. -/
structure Sound (s : Settings) : Prop where
  lookback_pos : 0 < s.lookback
  named : ∀ u ∈ s.uniforms, Text.trim u.name.toList ≠ []
  distinct : (s.uniforms.map (·.name)).Nodup

theorem uniformFault?_eq_none_iff {seen : List String} {us : List Variable} :
    uniformFault? seen us = none ↔ (∀ u ∈ us, Text.trim u.name.toList ≠ [])
      ∧ (us.map (·.name)).Nodup ∧ ∀ u ∈ us, u.name ∉ seen := by
  induction us generalizing seen with
  | nil => simp [uniformFault?]
  | cons u rest ih =>
    rw [uniformFault?]
    split_ifs with hblank hseen
    · simp [hblank]
    · simp [hseen]
    · simp only [ih, List.mem_cons, List.map_cons, List.nodup_cons, List.mem_map, forall_eq_or_imp]
      grind

theorem firstFault?_eq_none_iff : s.firstFault? = none ↔ s.Sound := by
  rw [firstFault?]
  split_ifs with hzero
  · exact ⟨nofun, fun h => absurd hzero (Nat.ne_of_gt h.lookback_pos)⟩
  · rw [uniformFault?_eq_none_iff]
    constructor
    · rintro ⟨hnamed, hdistinct, -⟩
      exact ⟨Nat.pos_of_ne_zero hzero, hnamed, hdistinct⟩
    · rintro ⟨-, hnamed, hdistinct⟩
      exact ⟨hnamed, hdistinct, fun _ _ => List.not_mem_nil⟩

/-- What the entries of a text come to, before anything is checked. -/
def decoded? (content : List Char) : Option Settings :=
  (Toml.read content).bind fun entries => (ofEntries entries).toOption

theorem decoded?_eq_some_iff :
    decoded? content = some s
      ↔ ∃ entries, Toml.read content = some entries ∧ ofEntries entries = .ok s := by
  have hok (entries : Toml.Entries) :
      (ofEntries entries).toOption = some s ↔ ofEntries entries = .ok s := by
    rcases ofEntries entries with m | s' <;> simp [Except.toOption]
  simp only [decoded?, Option.bind_eq_some_iff, hok]

theorem ofText_of_decoded? (h : decoded? content = some s) :
    ofText content = match s.firstFault? with
      | some f => .error (.fault f)
      | none => .ok s := by
  obtain ⟨entries, hread, hentries⟩ := decoded?_eq_some_iff.1 h
  rcases hfault : s.firstFault? with _ | f
  · simp only [ofText, hread, hentries, hfault]
  · simp only [ofText, hread, hentries, hfault]

/-- Settings are read from a text if they are what it says, and have no fault. -/
theorem ofText_eq_ok_iff :
    ofText content = .ok s ↔ decoded? content = some s ∧ s.firstFault? = none := by
  constructor
  · intro h
    rw [ofText] at h
    split at h
    · cases h
    · rename_i entries hread
      split at h
      · cases h
      · rename_i s' hentries
        split at h
        · cases h
        · rename_i hnone
          cases h
          exact ⟨decoded?_eq_some_iff.2 ⟨entries, hread, hentries⟩, hnone⟩
  · rintro ⟨hs, hnone⟩
    rw [ofText_of_decoded? hs, hnone]

theorem sound_of_ofText (h : ofText content = .ok s) : s.Sound :=
  firstFault?_eq_none_iff.1 (ofText_eq_ok_iff.1 h).2

end Settings

end GlslAssist
