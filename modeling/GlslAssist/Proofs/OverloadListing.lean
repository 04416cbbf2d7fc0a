import GlslAssist.CommandLine.Report
import GlslAssist.Proofs.ActiveOverload

/-!
# The listing of overloads

On the command line the overloads of a call are listed with a mark at the active one, and in that
one the active parameter stands in brackets. To put it there the label is taken apart at its first
parenthesis and its parameters are joined anew. For a label that `Signature.make` put together this
gives the label of the same overload with that one parameter in brackets (`markParameter_eq`), as
long as no parenthesis stands in the type or the name; what stands in the parameters is of no
matter. So what is printed is the list of labels and the marks, a line for each overload, and
nothing else (`listing_marks_active`).
-/

namespace GlslAssist

/-- What an overload is made from. -/
structure Prototype where
  ret : String
  name : String
  params : List String
  deriving DecidableEq, Repr

/-- The signature as it was made, before notes on the parameters were added. -/
def Signature.withoutNotes (s : Signature) : Signature :=
  ⟨s.label, s.parameters.map fun p => ⟨p.label, none⟩⟩

def bracketed (label : String) : String :=
  "[" ++ label ++ "]"

namespace Prototype

variable {p : Prototype} {k : Nat} {label : String}

def signature (p : Prototype) : Signature :=
  .make p.ret p.name p.params

/-- The first parenthesis of the label is the one before the parameters. -/
def IsPlain (p : Prototype) : Prop :=
  '(' ∉ p.ret.toList ∧ '(' ∉ p.name.toList

instance (p : Prototype) : Decidable p.IsPlain :=
  inferInstanceAs (Decidable (_ ∧ _))

/-- The label up to the parameter at a place. -/
def before (p : Prototype) (k : Nat) : String :=
  p.ret ++ " " ++ p.name ++ "(" ++ String.join ((p.params.take k).map (· ++ ", "))

/-- The label from the end of that parameter on. -/
def after (p : Prototype) (k : Nat) : String :=
  String.join ((p.params.drop (k + 1)).map (", " ++ ·)) ++ ")"

theorem intercalate_comma (label : String) : ∀ labels : List String,
    String.intercalate ", " (label :: labels) = label ++ String.join (labels.map (", " ++ ·))
  | [] => by simp
  | next :: labels => by
    rw [String.intercalate_cons_cons, intercalate_comma next labels, List.map_cons,
      String.join_cons]
    simp only [String.append_assoc]

theorem intercalate_parted (label : String) (labels' : List String) : ∀ labels : List String,
    String.intercalate ", " (labels ++ label :: labels')
      = String.join (labels.map (· ++ ", ")) ++ label ++ String.join (labels'.map (", " ++ ·))
  | [] => by simp [intercalate_comma]
  | first :: labels => by
    rw [List.cons_append, String.intercalate_cons_of_ne_nil (by simp),
      intercalate_parted label labels' labels, List.map_cons, String.join_cons]
    simp only [String.append_assoc]

theorem label_parted {labels labels' : List String} (h : p.params = labels ++ label :: labels') :
    p.signature.label = p.ret ++ " " ++ p.name ++ "(" ++ String.join (labels.map (· ++ ", "))
      ++ label ++ (String.join (labels'.map (", " ++ ·)) ++ ")") := by
  simp only [signature, Signature.make, h, intercalate_parted, String.append_assoc]

/-- A label is what stands before a parameter, the parameter, and what stands after it. -/
theorem label_signature (h : p.params[k]? = some label) :
    p.signature.label = p.before k ++ label ++ p.after k := by
  obtain ⟨hk, rfl⟩ := List.getElem?_eq_some_iff.1 h
  have hparams : p.params = p.params.take k ++ p.params[k] :: p.params.drop (k + 1) := by simp
  rw [label_parted hparams, before, after]

/-- The overload with one parameter in brackets. -/
def bracketAt (p : Prototype) (k : Nat) : Prototype :=
  { p with params := p.params.modify k bracketed }

theorem label_bracketAt (h : p.params[k]? = some label) :
    (p.bracketAt k).signature.label = p.before k ++ bracketed label ++ p.after k := by
  obtain ⟨hk, rfl⟩ := List.getElem?_eq_some_iff.1 h
  have hparams : (p.bracketAt k).params
      = p.params.take k ++ bracketed p.params[k] :: p.params.drop (k + 1) :=
    List.modify_eq_take_cons_drop hk
  rw [label_parted hparams, before, after, bracketAt]

theorem bracketAt_of_le (h : p.params.length ≤ k) : p.bracketAt k = p := by
  rw [bracketAt, List.modify_eq_self h]

end Prototype

namespace CommandLine

variable {s : Surroundings} {settings : Settings} {place : Place} {text : String}

theorem locate_of_text (htext : s.files.readText (Path.ofText place.file) = .ok text)
    (hline : 0 < place.line) (hcolumn : 0 < place.column) :
    locate s place = .ok (.ofText text, ⟨place.line - 1, place.column - 1⟩) := by
  rw [locate, htext]
  exact if_neg (by omega)

/-- Where the help is found its listing is printed, a line for each entry. -/
theorem perform_signature {help : SignatureHelp}
    (htext : s.files.readText (Path.ofText place.file) = .ok text) (hline : 0 < place.line)
    (hcolumn : 0 < place.column)
    (hfind : SignatureHelp.find settings.registry settings.lookback (.ofText text)
      ⟨place.line - 1, place.column - 1⟩ = some help) :
    perform s settings (.signature place)
      = ⟨String.join (help.listing.map (· ++ "\n")), [], [registryRecord settings], none⟩ := by
  rw [perform, query, locate_of_text htext hline hcolumn]
  simp only [signatureAnswer, hfind]
  rfl

end CommandLine

namespace SignatureHelp

open Prototype

variable {f : FunctionEntry} {p : Prototype} {k : Nat}

theorem toList_label (p : Prototype) :
    p.signature.label.toList = (p.ret ++ " " ++ p.name).toList
      ++ '(' :: (String.intercalate ", " p.params ++ ")").toList := by
  simp [signature, Signature.make]

theorem takeWhile_label (hp : p.IsPlain) :
    p.signature.label.toList.takeWhile (· ≠ '(') = (p.ret ++ " " ++ p.name).toList := by
  have hlead : ∀ c ∈ (p.ret ++ " " ++ p.name).toList, decide (c ≠ '(') = true := by
    have hspace : " ".toList = [' '] := rfl
    simp only [String.toList_append, hspace, List.mem_append, List.mem_singleton]
    rintro c ((hc | rfl) | hc)
    · exact decide_eq_true fun h => hp.1 (h ▸ hc)
    · decide
    · exact decide_eq_true fun h => hp.2 (h ▸ hc)
  rw [toList_label, List.takeWhile_append_of_pos hlead, List.takeWhile_cons_of_neg (by decide),
    List.append_nil]

/-- Marking a parameter of a label is making the label with that parameter in brackets. -/
theorem markParameter_eq {s : Signature} (hs : s.withoutNotes = p.signature) (hp : p.IsPlain) :
    markParameter s k = (p.bracketAt k).signature.label := by
  have hlabel : s.label = p.signature.label := by
    rw [← hs]
    rfl
  have hparams : s.parameters.map Parameter.label = p.params := by
    have h := congrArg (fun s => s.parameters.map Parameter.label) hs
    simpa [Signature.withoutNotes, signature, Signature.make, Function.comp_def] using h
  have hmarked : (s.parameters.mapIdx fun i q => if i = k then "[" ++ q.label ++ "]" else q.label)
      = p.params.modify k bracketed := by
    rw [List.mapIdx_eq_iff, ← hparams]
    intro i
    rw [List.getElem?_modify, List.getElem?_map]
    rcases s.parameters[i]? with _ | q
    · rfl
    · simp [bracketed, eq_comm]
  have hlonger : (p.ret ++ " " ++ p.name).toList.length ≠ p.signature.label.length := by
    rw [← String.length_toList, toList_label, List.length_append, List.length_cons]
    omega
  rw [markParameter, hmarked, hlabel, takeWhile_label hp, if_neg hlonger, String.ofList_toList]
  rfl

/-- The mark in front of the active overload. -/
def Marked (entry : String) : Prop :=
  "> ".toList <+: entry.toList

instance (entry : String) : Decidable (Marked entry) :=
  inferInstanceAs (Decidable (_ <+: _))

/-- An entry without the two characters that lead it. -/
def entryText (entry : String) : String :=
  String.ofList (entry.toList.drop 2)

/-- The entry of an overload, which may be the active one, with a parameter that may be one of it.
-/
structure Shows (p : Prototype) (active : Prop) (k : Nat) (entry : String) : Prop where
  marked : Marked entry ↔ active
  unmarked : ¬ active → entryText entry = p.signature.label
  inBrackets : active → ∀ label, p.params[k]? = some label →
    p.signature.label = p.before k ++ label ++ p.after k
      ∧ entryText entry = p.before k ++ "[" ++ label ++ "]" ++ p.after k
  past : active → p.params.length ≤ k → entryText entry = p.signature.label

@[simp] theorem entryText_marked (text : String) : entryText ("> " ++ text) = text := by
  simp [entryText]

@[simp] theorem entryText_unmarked (text : String) : entryText ("  " ++ text) = text := by
  simp [entryText]

theorem marked_append (text : String) : Marked ("> " ++ text) := by
  simp [Marked]

theorem not_marked_append (text : String) : ¬ Marked ("  " ++ text) := by
  simp [Marked]

theorem shows_marked {s : Signature} (hs : s.withoutNotes = p.signature) (hp : p.IsPlain)
    {active : Prop} (hactive : active) : Shows p active k ("> " ++ markParameter s k) := by
  rw [markParameter_eq hs hp]
  refine ⟨iff_of_true (marked_append _) hactive, fun h => absurd hactive h, fun _ label h => ?_,
    fun _ hle => ?_⟩
  · rw [entryText_marked, label_bracketAt h]
    exact ⟨label_signature h, by simp only [bracketed, String.append_assoc]⟩
  · rw [entryText_marked, bracketAt_of_le hle]

theorem shows_unmarked {s : Signature} (hs : s.withoutNotes = p.signature) {active : Prop}
    (hactive : ¬ active) : Shows p active k ("  " ++ s.label) := by
  refine ⟨iff_of_false (not_marked_append _) hactive, fun _ => ?_, fun h => absurd h hactive,
    fun h => absurd h hactive⟩
  rw [entryText_unmarked, ← hs]
  rfl

theorem getElem?_listing (help : SignatureHelp) (i : Nat) :
    help.listing[i]? = help.function.signatures[i]?.map fun s =>
      if i = help.activeSignature then "> " ++ markParameter s help.activeParameter
      else "  " ++ s.label := by
  rw [listing, List.getElem?_mapIdx]

/-- For a function whose overloads were made from prototypes, the listing has an entry for each in
order. The active one alone is marked, and it has the parameter at hand in brackets, if there is
such a parameter; but for that the entries are the labels. Where the function is the one that is
called, the command prints the entries, a line feed after each, and nothing else. -/
theorem listing_marks_active (f : FunctionEntry) (prototypes : List Prototype) (k : Nat)
    (hf : f.signatures.map Signature.withoutNotes = prototypes.map signature)
    (hne : prototypes ≠ []) (hplain : ∀ p ∈ prototypes, p.IsPlain) :
    let active := selectOverload f.signatures k
    let entries := listing ⟨f, active, k⟩
    entries.length = prototypes.length
      ∧ active < prototypes.length
      ∧ (∀ i p, prototypes[i]? = some p →
        ∃ entry, entries[i]? = some entry ∧ Shows p (i = active) k entry)
      ∧ ∀ (s : CommandLine.Surroundings) settings (place : CommandLine.Place) text index,
        s.files.readText (Path.ofText place.file) = .ok text → 0 < place.line → 0 < place.column →
        find settings.registry settings.lookback (.ofText text)
          ⟨place.line - 1, place.column - 1⟩ = some ⟨f, index, k⟩ →
        index = active
          ∧ CommandLine.perform s settings (.signature place)
            = ⟨String.join (entries.map (· ++ "\n")), [], [CommandLine.registryRecord settings],
              none⟩ := by
  intro active entries
  have hlength : f.signatures.length = prototypes.length := by
    simpa using congrArg List.length hf
  have hsignatures : f.signatures ≠ [] := by
    rw [← List.length_pos_iff, hlength]
    exact List.length_pos_iff.2 hne
  refine ⟨?_, ?_, fun i p hp => ?_,
    fun s settings place text index htext hline hcolumn hfind => ?_⟩
  · rw [← hlength]
    exact List.length_mapIdx
  · rw [← hlength]
    exact (selectOverload_activates hsignatures k).inTable
  · have hi := congrArg (·[i]?) hf
    simp only [List.getElem?_map, hp, Option.map_some, Option.map_eq_some_iff] at hi
    obtain ⟨s, hs, hshape⟩ := hi
    rw [getElem?_listing]
    simp only [hs, Option.map_some]
    refine ⟨_, rfl, ?_⟩
    split
    · next h => exact shows_marked hshape (hplain p (List.mem_of_getElem? hp)) h
    · next h => exact shows_unmarked hshape h
  · have hindex : index = active := by
      obtain ⟨call, -, -, hparameter, hsignature⟩ := find_eq_some_iff_call.1 hfind
      exact hsignature.trans (congrArg (selectOverload f.signatures) hparameter.symm)
    subst hindex
    exact ⟨rfl, CommandLine.perform_signature htext hline hcolumn hfind⟩

/-- The brackets stand around the second parameter, whatever is in it and in the others. Past the
last parameter of all the first overload is the active one, and as it was. -/
theorem listing_marks_active_brackets :
    let last : Prototype := ⟨"float", "f", ["x[2]", "y, (z"]⟩
    let prototypes : List Prototype := [⟨"void", "f", []⟩, ⟨"int", "f", ["(a), b"]⟩, last]
    let f : FunctionEntry := ⟨"f", prototypes.map signature, "", ""⟩
    let s : CommandLine.Surroundings :=
      ⟨Files.ofKnown [(Path.ofText "a", .ok (Path.ofText "texture(é,\n b, "))], [], []⟩
    (∃ entry, (listing ⟨f, 2, 1⟩)[2]? = some entry ∧ Shows last True 1 entry)
      ∧ listing ⟨f, 2, 1⟩ = ["  void f()", "  int f((a), b)", "> float f(x[2], [y, (z])"]
      ∧ (∃ entry, (listing ⟨f, 0, 2⟩)[2]? = some entry ∧ Shows last False 2 entry)
      ∧ listing ⟨f, 0, 2⟩ = ["> void f()", "  int f((a), b)", "  float f(x[2], y, (z)"]
      ∧ (CommandLine.perform s .default (.signature ⟨"a", 2, 5⟩)).output
        = "  vec4 texture(sampler2D sampler, vec2 coord)\n"
          ++ "  vec4 texture(sampler3D sampler, vec3 coord)\n"
          ++ "  vec4 texture(samplerCube sampler, vec3 coord)\n"
          ++ "> vec4 texture(sampler2D sampler, vec2 coord, [float bias])\n" := by
  intro last prototypes f s
  have hplain : ∀ p ∈ prototypes, p.IsPlain := by decide
  obtain ⟨-, -, hsecond, -⟩ := listing_marks_active f prototypes 1 (by decide) (by decide) hplain
  obtain ⟨-, -, hthird, -⟩ := listing_marks_active f prototypes 2 (by decide) (by decide) hplain
  have hactive : selectOverload f.signatures 1 = 2 := by decide
  have hfallback : selectOverload f.signatures 2 = 0 := by decide
  let overloads : List Prototype :=
    [⟨"vec4", "texture", ["sampler2D sampler", "vec2 coord"]⟩,
      ⟨"vec4", "texture", ["sampler3D sampler", "vec3 coord"]⟩,
      ⟨"vec4", "texture", ["samplerCube sampler", "vec3 coord"]⟩,
      ⟨"vec4", "texture", ["sampler2D sampler", "vec2 coord", "float bias"]⟩]
  have hfound : (find Settings.default.registry Settings.default.lookback
      (.ofText "texture(é,\n b, ") ⟨1, 4⟩).map
        (fun h => (h.function.signatures.map Signature.withoutNotes, h.activeParameter, h.listing))
      = some (overloads.map signature, 2, ["  vec4 texture(sampler2D sampler, vec2 coord)",
          "  vec4 texture(sampler3D sampler, vec3 coord)",
          "  vec4 texture(samplerCube sampler, vec3 coord)",
          "> vec4 texture(sampler2D sampler, vec2 coord, [float bias])"]) := by
    decide
  obtain ⟨⟨texture, index, k⟩, hfind, hdata⟩ := Option.map_eq_some_iff.1 hfound
  simp only [Prod.mk.injEq] at hdata
  obtain ⟨hmade, rfl, hlisting⟩ := hdata
  obtain ⟨-, -, -, hprint⟩ := listing_marks_active texture overloads 2 hmade (by decide) (by decide)
  obtain ⟨rfl, hreport⟩ := hprint s .default ⟨"a", 2, 5⟩ "texture(é,\n b, " index rfl (by decide)
    (by decide) hfind
  rw [hreport, hlisting]
  exact ⟨by simpa [hactive] using hsecond 2 last rfl, by decide,
    by simpa [hfallback] using hthird 2 last rfl, by decide, by decide +kernel⟩

end SignatureHelp

end GlslAssist
