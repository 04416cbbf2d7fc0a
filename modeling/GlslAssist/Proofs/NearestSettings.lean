import GlslAssist.Proofs.Ancestors
import GlslAssist.Proofs.Bytes
import GlslAssist.Proofs.SoundSettings
import GlslAssist.Settings.Discovery

/-!
# The nearest settings file

The settings of a directory come from the first directory on the way up that has a settings file
(`locate_eq_find?`). What stands there is what holds, be it good or not: a file that cannot be read,
is no TOML document, does not fit or is not sound is an error (`load_eq_iff`), and nothing further
up is looked at. So two file systems that agree on the files up to that one, and on what is in it,
give the same settings (`discover_nearest`).
-/

namespace GlslAssist.Settings

/-- What the settings file at a path comes to. Its bytes have to be there, to be a text, to be a
document, to fit and to be sound, and the first of these that fails is the error. -/
inductive Loads (files : Files) (file : Path) : Except LoadError Settings → Prop
  | unreadable {problem : ReadProblem} (hread : files.read file = .error problem) :
    Loads files file (.error (.unreadable file problem))
  | notText {bytes : List UInt8} (hread : files.read file = .ok bytes)
    (htext : ∀ content, Text.bytes content ≠ bytes) :
    Loads files file (.error (.unreadable file .notText))
  | malformed {content : List Char} (hread : files.read file = .ok (Text.bytes content))
    (hdocument : Toml.read content = none) :
    Loads files file (.error (.invalid .malformed))
  | mismatch {content : List Char} {entries : Toml.Entries} {m : Mismatch}
    (hread : files.read file = .ok (Text.bytes content))
    (hdocument : Toml.read content = some entries) (hfit : ofEntries entries = .error m) :
    Loads files file (.error (.invalid (.mismatch m)))
  | fault {content : List Char} {entries : Toml.Entries} {s : Settings} {f : Fault}
    (hread : files.read file = .ok (Text.bytes content))
    (hdocument : Toml.read content = some entries) (hfit : ofEntries entries = .ok s)
    (hfault : s.firstFault? = some f) :
    Loads files file (.error (.invalid (.fault f)))
  | sound {content : List Char} {entries : Toml.Entries} {s : Settings}
    (hread : files.read file = .ok (Text.bytes content))
    (hdocument : Toml.read content = some entries) (hfit : ofEntries entries = .ok s)
    (hsound : s.firstFault? = none) :
    Loads files file (.ok s)

/-- The settings file of a directory, whether it exists or not. -/
def fileIn (directory : Path) : Path :=
  directory.join fileName

/-- The way up from a directory parts at `nearest`: its settings file exists, and none below does.
-/
structure Nearest (has : Path → Bool) (directory : Path) (below : List Path) (nearest : Path)
    (above : List Path) : Prop where
  way : directory.ancestors = below ++ nearest :: above
  found : has (fileIn nearest) = true
  missing : ∀ d ∈ below, has (fileIn d) = false

variable {has : Path → Bool} {files : Files} {directory nearest : Path} {below above : List Path}

theorem fromUTF8?_eq_some_iff {bytes : List UInt8} {text : String} :
    String.fromUTF8? ⟨bytes.toArray⟩ = some text ↔ Text.bytes text.toList = bytes := by
  have hbytes : Text.bytes text.toList = bytes ↔ text.toByteArray = ⟨bytes.toArray⟩ := by
    rw [Text.bytes_toList, ByteArray.ext_iff, ← Array.toList_inj]
  rw [hbytes, String.fromUTF8?]
  split
  · rw [Option.some.injEq]
    exact ⟨fun h => h ▸ rfl, fun h => String.toByteArray_inj.1 h.symm⟩
  · next hinvalid =>
    simp only [reduceCtorEq, false_iff]
    exact fun h => hinvalid (h ▸ text.isValidUTF8)

theorem readText_eq_ok_iff {file : Path} {text : String} :
    files.readText file = .ok text ↔ files.read file = .ok (Text.bytes text.toList) := by
  rw [Files.readText]
  rcases files.read file with problem | bytes
  · simp
  · simp only [Except.ok.injEq, eq_comm (a := bytes), ← fromUTF8?_eq_some_iff]
    rcases String.fromUTF8? ⟨bytes.toArray⟩ with _ | found <;> simp

theorem readText_of_notText {file : Path} {bytes : List UInt8}
    (hread : files.read file = .ok bytes) (htext : ∀ content, Text.bytes content ≠ bytes) :
    files.readText file = .error .notText := by
  have hnone : String.fromUTF8? ⟨bytes.toArray⟩ = none := by
    rw [Option.eq_none_iff_forall_ne_some]
    exact fun text h => htext text.toList (fromUTF8?_eq_some_iff.1 h)
  rw [Files.readText, hread]
  simp only [hnone]

theorem load_of_text {file : Path} {content : List Char}
    (hread : files.read file = .ok (Text.bytes content)) :
    load files file = (ofText content).mapError .invalid := by
  have htext : files.readText file = .ok (String.ofList content) := by
    rwa [readText_eq_ok_iff, String.toList_ofList]
  rw [load, htext]
  simp only [String.toList_ofList]

theorem load_of_loads {file : Path} {result : Except LoadError Settings}
    (h : Loads files file result) : load files file = result := by
  cases h with
  | unreadable hread => rw [load, Files.readText, hread]
  | notText hread htext => rw [load, readText_of_notText hread htext]
  | malformed hread hdocument =>
    rw [load_of_text hread, ofText, hdocument]
    rfl
  | mismatch hread hdocument hfit =>
    rw [load_of_text hread, ofText, hdocument]
    simp only [hfit]
    rfl
  | fault hread hdocument hfit hfault =>
    rw [load_of_text hread, ofText, hdocument]
    simp only [hfit, hfault]
    rfl
  | sound hread hdocument hfit hsound =>
    rw [load_of_text hread, ofText, hdocument]
    simp only [hfit, hsound]
    rfl

/-- One stage fails, or none does. -/
theorem exists_loads (files : Files) (file : Path) : ∃ result, Loads files file result := by
  rcases hread : files.read file with problem | bytes
  · exact ⟨_, .unreadable hread⟩
  · by_cases htext : ∃ content, Text.bytes content = bytes
    · obtain ⟨content, rfl⟩ := htext
      rcases hdocument : Toml.read content with _ | entries
      · exact ⟨_, .malformed hread hdocument⟩
      · rcases hfit : ofEntries entries with m | s
        · exact ⟨_, .mismatch hread hdocument hfit⟩
        · rcases hfault : s.firstFault? with _ | f
          · exact ⟨_, .sound hread hdocument hfit hfault⟩
          · exact ⟨_, .fault hread hdocument hfit hfault⟩
    · exact ⟨_, .notText hread (not_exists.1 htext)⟩

theorem load_eq_iff {file : Path} {result : Except LoadError Settings} :
    load files file = result ↔ Loads files file result := by
  constructor
  · rintro rfl
    obtain ⟨result, h⟩ := exists_loads files file
    rwa [load_of_loads h]
  · exact load_of_loads

theorem locate_of_has (h : has (fileIn directory) = true) :
    locate has directory = some (fileIn directory) := by
  rw [locate]
  exact if_pos h

theorem locate_of_not_has (h : has (fileIn directory) = false) :
    locate has directory = directory.parent?.bind (locate has) := by
  rw [locate, if_neg (by rw [← fileIn, h]; decide)]
  split
  · next hup => rw [hup, Option.bind_none]
  · next hup => rw [hup, Option.bind_some]

/-- The search tries the files of the directories on the way up, one after another. -/
theorem locate_eq_find? (has : Path → Bool) (directory : Path) :
    locate has directory = (directory.ancestors.map fileIn).find? has := by
  have hway : directory.ancestors
      = directory :: (directory.parent?.map Path.ancestors).getD [] := by
    rcases h : directory.parent? with _ | up
    · exact Path.ancestors_of_none h
    · exact Path.ancestors_of_some h
  rw [hway, List.map_cons, List.find?_cons]
  rcases hfile : has (fileIn directory) with _ | _
  · rw [locate_of_not_has hfile]
    rcases h : directory.parent? with _ | up
    · rfl
    · exact locate_eq_find? has up
  · exact locate_of_has hfile
termination_by directory.length
decreasing_by exact Path.parent?_length_lt h

theorem locate_eq_some_iff {file : Path} :
    locate has directory = some file
      ↔ ∃ below nearest above, Nearest has directory below nearest above
        ∧ file = fileIn nearest := by
  rw [locate_eq_find?, List.find?_map, Option.map_eq_some_iff]
  simp only [List.find?_eq_some_iff_append]
  constructor
  · rintro ⟨nearest, ⟨hfound, below, above, hway, hmissing⟩, rfl⟩
    exact ⟨below, nearest, above, ⟨hway, hfound, by simpa using hmissing⟩, rfl⟩
  · rintro ⟨below, nearest, above, ⟨hway, hfound, hmissing⟩, rfl⟩
    exact ⟨nearest, ⟨hfound, below, above, hway, by simpa using hmissing⟩, rfl⟩

theorem locate_eq_none_iff :
    locate has directory = none ↔ ∀ d ∈ directory.ancestors, has (fileIn d) = false := by
  simp [locate_eq_find?]

theorem discover_of_nearest (h : Nearest files.has directory below nearest above) :
    discover files directory = load files (fileIn nearest) := by
  rw [discover, locate_eq_some_iff.2 ⟨below, nearest, above, h, rfl⟩]

/-- Only what there is up to the nearest file, and what is in that file, counts. -/
theorem discover_congr {files' : Files} (h : Nearest files.has directory below nearest above)
    (hhas : ∀ d ∈ below ++ [nearest], files'.has (fileIn d) = files.has (fileIn d))
    (hread : files'.read (fileIn nearest) = files.read (fileIn nearest)) :
    discover files' directory = discover files directory := by
  have h' : Nearest files'.has directory below nearest above :=
    ⟨h.way, (hhas nearest (by simp)).trans h.found,
      fun d hd => (hhas d (List.mem_append_left _ hd)).trans (h.missing d hd)⟩
  rw [discover_of_nearest h, discover_of_nearest h', load, load, Files.readText, Files.readText,
    hread]

/-- The nearest file is no candidate further up, and neither is one that was missed below it. -/
theorem Nearest.not_above (h : Nearest has directory below nearest above) :
    ∀ d ∈ below ++ [nearest], fileIn d ∉ above.map fileIn := by
  have hpairwise := Path.pairwise_join directory fileName (by decide)
  rw [h.way, ← List.singleton_append, ← List.append_assoc, List.pairwise_append] at hpairwise
  intro d hd hfile
  obtain ⟨u, hu, heq⟩ := List.mem_map.1 hfile
  have hlt := hpairwise.2.2 d hd u hu
  rw [← fileIn, ← fileIn, heq] at hlt
  exact Nat.lt_irrefl _ hlt

/-- The settings of a directory are those in the nearest settings file on the way up, and the
default ones if there is none. The way up goes from parent to parent to the root or to the empty
path. What is wrong with the nearest file is the error, whatever is further up: the settings are the
same for every other system of files that has the same ones up to there and the same in the nearest,
so in particular for one that differs only in files further up and in files that are not on the way.
-/
theorem discover_nearest (files : Files) (directory : Path) :
    Path.Ascent directory directory.ancestors
      ∧ (∀ file, locate files.has directory = some file
        ↔ ∃ below nearest above, Nearest files.has directory below nearest above
          ∧ file = fileIn nearest)
      ∧ (locate files.has directory = none
        ↔ ∀ d ∈ directory.ancestors, files.has (fileIn d) = false)
      ∧ ((∀ d ∈ directory.ancestors, files.has (fileIn d) = false) →
        discover files directory = .ok default)
      ∧ ∀ below nearest above, Nearest files.has directory below nearest above →
        (∀ result, discover files directory = result ↔ Loads files (fileIn nearest) result)
          ∧ (∀ files' : Files,
            (∀ d ∈ below ++ [nearest], files'.has (fileIn d) = files.has (fileIn d)) →
            files'.read (fileIn nearest) = files.read (fileIn nearest) →
            discover files' directory = discover files directory)
          ∧ ∀ files' : Files,
            (∀ file ∈ directory.ancestors.map fileIn, file ∉ above.map fileIn →
              files'.has file = files.has file ∧ files'.read file = files.read file) →
            discover files' directory = discover files directory := by
  refine ⟨Path.ascent_ancestors directory, fun file => locate_eq_some_iff, locate_eq_none_iff,
    fun hnone => ?_, fun below nearest above h => ⟨fun result => ?_,
      fun files' hhas hread => discover_congr h hhas hread, fun files' hsame => ?_⟩⟩
  · rw [discover, locate_eq_none_iff.2 hnone]
  · rw [discover_of_nearest h, load_eq_iff]
  · have hagree : ∀ d ∈ below ++ [nearest], files'.has (fileIn d) = files.has (fileIn d)
        ∧ files'.read (fileIn d) = files.read (fileIn d) := by
      refine fun d hd => hsame _ (List.mem_map_of_mem ?_) (h.not_above d hd)
      rw [h.way, ← List.singleton_append, ← List.append_assoc]
      exact List.mem_append_left above hd
    exact discover_congr h (fun d hd => (hagree d hd).1) (hagree nearest (by simp)).2

/-- The directory in between has a settings file that is no file, no document or not sound, and above
it is a good one, which is not tried. Without either the defaults hold. -/
theorem discover_nearest_below_good :
    let directory := Path.ofText "./a//b"
    let own := Path.ofText "./a/shaderlab.toml"
    let malformed := Path.ofText "="
    let unsound := Path.ofText "signature_help = [0]"
    let files (found : Except ReadProblem (List UInt8)) :=
      Files.ofKnown [(own, found), (Path.ofText "./shaderlab.toml", .ok [])]
    Nearest (files (.ok malformed)).has directory [directory] (Path.ofText "./a")
        [Path.ofText ".", []]
      ∧ discover (files (.error .isDirectory)) directory = .error (.unreadable own .isDirectory)
      ∧ discover (files (.ok malformed)) directory = .error (.invalid .malformed)
      ∧ discover (files (.ok unsound)) directory = .error (.invalid (.fault .zeroLookback))
      ∧ discover (Files.ofKnown [(own, .ok malformed)]) directory
        = discover (files (.ok malformed)) directory
      ∧ discover (Files.ofKnown []) directory = .ok default := by
  intro directory own malformed unsound files
  have hway : directory.ancestors = [directory, Path.ofText "./a", Path.ofText ".", []] := by
    rw [Path.ancestors_of_some (q := Path.ofText "./a") (by decide),
      Path.ancestors_of_some (q := Path.ofText ".") (by decide),
      Path.ancestors_of_some (q := []) (by decide), Path.ancestors_of_none (by decide)]
  have hnearest {found : Except ReadProblem (List UInt8)}
      (hfound : (files found).has own = true) :
      Nearest (files found).has directory [directory] (Path.ofText "./a")
        [Path.ofText ".", []] := by
    refine ⟨hway, hfound, ?_⟩
    intro d hd
    rw [List.mem_singleton.1 hd]
    rfl
  have hdiscover (found : Except ReadProblem (List UInt8)) {result : Except LoadError Settings}
      (hfound : (files found).has own = true) (h : Loads (files found) own result) :
      discover (files found) directory = result := by
    obtain ⟨-, -, -, -, hfirst⟩ := discover_nearest (files found) directory
    exact ((hfirst _ _ _ (hnearest hfound)).1 result).2 h
  have hmalformed : Toml.read "=".toList = none := Option.isNone_iff_eq_none.1 (by decide +kernel)
  have hunsound : decoded? "signature_help = [0]".toList = some { default with lookback := 0 } := by
    decide +kernel
  obtain ⟨entries, hdocument, hfit⟩ := decoded?_eq_some_iff.1 hunsound
  obtain ⟨-, -, -, -, hfirst⟩ := discover_nearest (files (.ok malformed)) directory
  obtain ⟨-, -, hother⟩ := hfirst _ _ _ (hnearest rfl)
  obtain ⟨-, -, -, hdefault, -⟩ := discover_nearest (Files.ofKnown []) directory
  refine ⟨hnearest rfl, hdiscover _ rfl (.unreadable rfl),
    hdiscover _ rfl (.malformed rfl hmalformed),
    hdiscover _ rfl (.fault rfl hdocument hfit (by decide)), hother _ ?_, hdefault fun _ _ => rfl⟩
  rw [hway]
  decide

end GlslAssist.Settings
