import GlslAssist.Proofs.Ancestors
import GlslAssist.Proofs.Bytes
import GlslAssist.Server

/-!
# Accepted documents

A document is for the server if it is said to be in the language, or if its URI names a file with
one of the extensions (`accepts_iff`). A URI names a file if its path begins with a slash and it has
no host but the machine itself; the scheme is of no matter. In the path a percent sign and two
digits stand for a byte (`percentDecoded_eq_iff`), and the extension of a file is what follows the
last point of the last name in its path, if something stands before that point
(`extension?_eq_some_iff`).
-/

namespace GlslAssist

namespace Path

/-- The last name of the path ends in a point and the extension, with something before the point.
Two points alone are no name of a file. -/
def HasExtension (p ending : Path) : Prop :=
  ∃ stem, p.names.getLast? = some (stem ++ dot :: ending) ∧ stem ≠ [] ∧ dot ∉ ending
    ∧ stem ++ dot :: ending ≠ [dot, dot]

variable {p name ending : Path}

theorem fileName?_eq_some_iff :
    p.fileName? = some name ↔ p.names.getLast? = some name ∧ name ≠ [dot, dot] := by
  by_cases hlast : lastFirst p = []
  · have hnames := names_lastFirst p
    rw [hlast, List.reverse_nil, names_nil] at hnames
    simp [fileName?, hlast, ← hnames]
  · have hbegins : BeginsName (lastFirst p) := beginsName_dropIdle hlast
    have hnames := names_lastFirst p
    rw [names_reverse hbegins] at hnames
    have hpiece : ((lastFirst p).takeWhile (· ≠ slash)).reverse ≠ [] := by
      simpa using (takeWhile_of_beginsName hbegins).1
    rw [← hnames, List.getLast?_concat, Option.some.injEq]
    simp only [fileName?]
    split
    · next hdots =>
      rw [hdots.resolve_left hpiece]
      simp only [reduceCtorEq, false_iff, not_and, not_not]
      exact fun hname => hname.symm
    · next hdots =>
      rw [Option.some.injEq]
      refine ⟨fun hname => ⟨hname, ?_⟩, And.left⟩
      rintro rfl
      exact hdots (.inr hname)

/-- The last point parts a name in what stands before it and what follows. -/
theorem takeWhile_dot_iff :
    (¬ name.length ≤ (name.reverse.takeWhile (· ≠ dot)).length + 1
        ∧ (name.reverse.takeWhile (· ≠ dot)).reverse = ending)
      ↔ ∃ stem, name = stem ++ dot :: ending ∧ stem ≠ [] ∧ dot ∉ ending := by
  constructor
  · rintro ⟨hlong, rfl⟩
    have hparts : name.reverse.takeWhile (· ≠ dot) ++ name.reverse.dropWhile (· ≠ dot)
        = name.reverse := List.takeWhile_append_dropWhile
    have hends : ∀ c ∈ name.reverse.takeWhile (· ≠ dot), c ≠ dot := fun c hc => by
      simpa using List.mem_takeWhile_imp hc
    have hfirst := List.head?_dropWhile_not (· ≠ dot) name.reverse
    generalize name.reverse.takeWhile (· ≠ dot) = back at hlong hparts hends ⊢
    generalize name.reverse.dropWhile (· ≠ dot) = rest at hparts hfirst
    rcases rest with _ | ⟨c, front⟩
    · rw [← List.length_reverse, ← hparts, List.append_nil] at hlong
      omega
    · obtain rfl : c = dot := by simpa using hfirst
      have hname : name = front.reverse ++ dot :: back.reverse := by
        rw [← List.reverse_reverse name, ← hparts]
        simp
      refine ⟨front.reverse, hname, ?_, fun hdot => hends dot (List.mem_reverse.1 hdot) rfl⟩
      intro hfront
      rw [hname, hfront, List.nil_append, List.length_cons, List.length_reverse] at hlong
      omega
  · rintro ⟨stem, rfl, hstem, hending⟩
    have hback : ∀ c ∈ ending.reverse, decide (c ≠ dot) = true := fun c hc =>
      decide_eq_true fun h => hending (h ▸ List.mem_reverse.1 hc)
    have htake : (stem ++ dot :: ending).reverse.takeWhile (· ≠ dot) = ending.reverse := by
      rw [List.reverse_append, List.reverse_cons, List.append_assoc,
        List.takeWhile_append_of_pos hback]
      simp
    have hpos := List.length_pos_iff.2 hstem
    rw [htake, List.reverse_reverse, List.length_append, List.length_cons, List.length_reverse]
    exact ⟨by omega, rfl⟩

theorem extension?_eq_some_iff : p.extension? = some ending ↔ p.HasExtension ending := by
  have hname (name : Path) :
      (if name.length ≤ (name.reverse.takeWhile (· ≠ dot)).length + 1 then none
        else some (name.reverse.takeWhile (· ≠ dot)).reverse) = some ending
      ↔ ∃ stem, name = stem ++ dot :: ending ∧ stem ≠ [] ∧ dot ∉ ending := by
    rw [← takeWhile_dot_iff]
    split
    · next h => exact iff_of_false nofun fun hlong => hlong.1 h
    · next h =>
      rw [Option.some.injEq]
      exact ⟨fun hending => ⟨h, hending⟩, And.right⟩
  simp only [extension?, Option.bind_eq_some_iff, fileName?_eq_some_iff, hname]
  constructor
  · rintro ⟨_, ⟨hlast, hdots⟩, stem, rfl, hstem, hending⟩
    exact ⟨stem, hlast, hstem, hending, hdots⟩
  · rintro ⟨stem, hlast, hstem, hending, hdots⟩
    exact ⟨_, ⟨hlast, hdots⟩, stem, rfl, hstem, hending⟩

end Path

namespace Uri

/-- A text with percent signs spells bytes: such a sign and two digits one byte, and any other
character the bytes of its own. -/
inductive Spells : List Char → List UInt8 → Prop
  | nil : Spells [] []
  | escaped {a b : Char} {x y : Nat} {s : List Char} {bytes : List UInt8}
    (ha : Text.hexValue? a = some x) (hb : Text.hexValue? b = some y) (hs : Spells s bytes) :
    Spells ('%' :: a :: b :: s) (UInt8.ofNat (16 * x + y) :: bytes)
  | plain {c : Char} {s : List Char} {bytes : List UInt8}
    (hc : ∀ a b rest, c :: s = '%' :: a :: b :: rest →
      Text.hexValue? a = none ∨ Text.hexValue? b = none) (hs : Spells s bytes) :
    Spells (c :: s) (String.utf8EncodeChar c ++ bytes)

/-- The URI names the file of this machine with that path. -/
structure NamesFile (u : Uri) (file : Path) : Prop where
  here : ∀ a ∈ u.authority, ∀ host ∈ a.host, host = .name "localhost"
  rooted : u.path.toList.head? = some '/'
  spelled : Spells u.path.toList file

theorem percentByte?_eq_some_iff {s rest : List Char} {byte : UInt8} :
    percentByte? s = some (byte, rest)
      ↔ ∃ a b x y, s = '%' :: a :: b :: rest ∧ Text.hexValue? a = some x
        ∧ Text.hexValue? b = some y ∧ UInt8.ofNat (16 * x + y) = byte := by
  constructor
  · intro h
    rw [percentByte?.eq_def] at h
    split at h
    · next a b rest' =>
      split at h
      · next x y ha hb =>
        rw [Option.some.injEq, Prod.mk.injEq] at h
        obtain ⟨hbyte, rfl⟩ := h
        exact ⟨a, b, x, y, rfl, ha, hb, hbyte⟩
      · cases h
    · cases h
  · rintro ⟨a, b, x, y, rfl, ha, hb, rfl⟩
    simp only [percentByte?, ha, hb]

theorem percentByte?_eq_none {s : List Char} (h : ∀ a b rest, s = '%' :: a :: b :: rest →
    Text.hexValue? a = none ∨ Text.hexValue? b = none) : percentByte? s = none := by
  rw [Option.eq_none_iff_forall_ne_some]
  rintro ⟨byte, rest⟩ hbyte
  obtain ⟨a, b, x, y, hs, ha, hb, -⟩ := percentByte?_eq_some_iff.1 hbyte
  rcases h a b rest hs with hnone | hnone
  · rw [hnone] at ha
    cases ha
  · rw [hnone] at hb
    cases hb

theorem spells_percentDecoded (s : List Char) : Spells s (percentDecoded s) := by
  fun_induction percentDecoded s with
  | case1 => exact .nil
  | case2 c s byte rest hbyte ih =>
    obtain ⟨a, b, x, y, hs, ha, hb, rfl⟩ := percentByte?_eq_some_iff.1 hbyte
    rw [hs]
    exact .escaped ha hb ih
  | case3 c s hnone ih =>
    refine .plain (fun a b rest hs => ?_) ih
    by_contra hdigits
    simp only [not_or, ← Option.isSome_iff_ne_none, Option.isSome_iff_exists] at hdigits
    obtain ⟨⟨x, hx⟩, y, hy⟩ := hdigits
    rw [percentByte?_eq_some_iff.2 ⟨a, b, x, y, hs, hx, hy, rfl⟩] at hnone
    cases hnone

theorem percentDecoded_eq_iff {s : List Char} {bytes : List UInt8} :
    percentDecoded s = bytes ↔ Spells s bytes := by
  constructor
  · rintro rfl
    exact spells_percentDecoded s
  · intro h
    induction h with
    | nil => rw [percentDecoded]
    | @escaped a b x y s bytes ha hb _ ih =>
      have hbyte : percentByte? ('%' :: a :: b :: s) = some (UInt8.ofNat (16 * x + y), s) :=
        percentByte?_eq_some_iff.2 ⟨a, b, x, y, rfl, ha, hb, rfl⟩
      rw [percentDecoded]
      split
      · next byte rest h =>
        rw [hbyte, Option.some.injEq, Prod.mk.injEq] at h
        obtain ⟨rfl, rfl⟩ := h
        rw [ih]
      · next h => rw [hbyte] at h; cases h
    | plain hc _ ih =>
      have hbyte := percentByte?_eq_none hc
      rw [percentDecoded]
      split
      · next h => rw [hbyte] at h; cases h
      · rw [ih]

theorem Spells.cons {c : Char} {s : List Char} {bytes : List UInt8} (hc : c ≠ '%')
    (hs : Spells s bytes) : Spells (c :: s) (String.utf8EncodeChar c ++ bytes) :=
  .plain (fun _ _ _ h => absurd (List.cons.inj h).1 hc) hs

/-- A text without percent signs spells its own bytes. -/
theorem spells_bytes : ∀ {s : List Char}, '%' ∉ s → Spells s (Text.bytes s)
  | [], _ => .nil
  | c :: s, h => by
    rw [List.mem_cons, not_or] at h
    rw [Text.bytes_cons]
    exact (spells_bytes h.2).cons (Ne.symm h.1)

theorem filePath?_eq_some_iff {u : Uri} {file : Path} :
    u.filePath? = some file ↔ u.NamesFile file := by
  have hhost : u.host?.all (· = .name "localhost") = true
      ↔ ∀ a ∈ u.authority, ∀ host ∈ a.host, host = .name "localhost" := by
    simp only [Option.all_eq_true, decide_eq_true_eq, host?, Option.bind_eq_some_iff,
      Option.mem_def]
    exact ⟨fun h a ha host hhost => h host ⟨a, ha, hhost⟩,
      fun h host ⟨a, ha, hhost⟩ => h a ha host hhost⟩
  rw [filePath?]
  split
  · next h =>
    rw [Option.some.injEq, percentDecoded_eq_iff]
    exact ⟨fun hs => ⟨hhost.1 h.1, h.2, hs⟩, NamesFile.spelled⟩
  · next h =>
    simp only [reduceCtorEq, false_iff]
    exact fun hfile => h ⟨hhost.2 hfile.here, hfile.rooted⟩

end Uri

namespace Server

/-- The document is said to be in the language, or its URI names a file with an extension of the
settings, whatever the scheme is. -/
def Accepted (settings : Settings) (uri : Uri) (language : String) : Prop :=
  language = "glsl" ∨ ∃ file, uri.NamesFile file
    ∧ ∃ name ∈ settings.extensions, file.HasExtension (Path.ofText name)

theorem accepts_iff {settings : Settings} {uri : Uri} {language : String} :
    accepts settings uri language = true ↔ Accepted settings uri language := by
  have hending (file : Path) : settings.isShaderFile file = true
      ↔ ∃ name ∈ settings.extensions, file.HasExtension (Path.ofText name) := by
    simp only [Settings.isShaderFile, Option.any_eq_true, List.any_eq_true, beq_iff_eq,
      ← Path.extension?_eq_some_iff]
    constructor
    · rintro ⟨ending, hfile, name, hname, rfl⟩
      exact ⟨name, hname, hfile⟩
    · rintro ⟨name, hname, hfile⟩
      exact ⟨_, hfile, name, hname, rfl⟩
  rw [accepts, Bool.or_eq_true, decide_eq_true_eq, Accepted, Option.any_eq_true]
  simp only [hending, Uri.filePath?_eq_some_iff, languageId]

end Server

end GlslAssist
