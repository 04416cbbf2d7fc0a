import GlslAssist.SignatureHelp
import GlslAssist.Proofs.CheckedSearch
import GlslAssist.Proofs.Lookup

/-!
# Questions with every step checked

A registry finds names through an index of positions, in which a later entry of the same name takes
the place of an earlier one. With that, the questions of an editor are computed here with every step
checked; no step of any of them fails on a text whose length and number of lines are words of 32
bits, wherever in it or past it one asks (`questions_faultFree`).
-/

namespace GlslAssist

open Text Decimal

namespace Checked

/-! ## Tables -/

section Tables

variable {α : Type} (key : α → String) (table : List α)

/-- The position of each name in the table. -/
def index : Std.HashMap String Nat :=
  table.zipIdx.foldl (fun found e => found.insert (key e.1) e.2) ∅

def findIn (name : String) : Checked (Option α) :=
  match (index key table)[name]? with
  | none => pure none
  | some i => do
    let x ← entry table i
    pure (some x)

theorem index_concat (x : α) (name : String) :
    (index key (table ++ [x]))[name]?
      = if key x == name then some table.length else (index key table)[name]? := by
  rw [index, List.zipIdx_append, List.foldl_append, Nat.zero_add]
  exact Std.HashMap.getElem?_insert

theorem index_lt {name : String} {i : Nat} (h : (index key table)[name]? = some i) :
    i < table.length := by
  induction table using List.reverseRecOn with
  | nil => simp [index] at h
  | append_singleton table x ih =>
    rw [index_concat] at h
    rw [List.length_append]
    split_ifs at h
    · rw [Option.some.injEq] at h
      exact h ▸ Nat.lt_succ_self _
    · exact Nat.lt_succ_of_lt (ih h)

theorem findRev?_concat (x : α) (name : String) :
    (table ++ [x]).findRev? (key · == name)
      = if key x == name then some x else table.findRev? (key · == name) := by
  rw [findRev?_append]
  rcases hx : key x == name <;> simp [hx]

theorem index_bind (name : String) :
    (index key table)[name]?.bind (table[·]?) = table.findRev? (key · == name) := by
  induction table using List.reverseRecOn with
  | nil => simp [index]
  | append_singleton table x ih =>
    rw [index_concat, findRev?_concat, ← ih]
    split_ifs
    · rw [Option.bind_some, List.getElem?_concat_length]
    · rcases hi : (index key table)[name]? with _ | i
      · rfl
      · rw [Option.bind_some, Option.bind_some, List.getElem?_append_left (index_lt _ _ hi)]

theorem findIn_eq (name : String) :
    findIn key table name = pure (table.findRev? (key · == name)) := by
  rw [← index_bind, findIn]
  rcases hi : (index key table)[name]? with _ | i
  · rfl
  · have hx := List.getElem?_eq_getElem (index_lt _ _ hi)
    simp only [entry_eq hx, pure_bind, Option.bind_some, hx]

end Tables

/-! ## Questions -/

def resolve (registry : Registry) (name : String) : Checked (Option Symbol) :=
  Namespace.precedence.findSomeM? fun space => findIn Symbol.name (registry.table space) name

def hover (registry : Registry) (d : Snapshot) (pos : Position) : Checked (Option Hover) := do
  match ← d.wordAt pos with
  | none => pure none
  | some word =>
    match ← resolve registry word.text with
    | none => pure none
    | some symbol => pure (some ⟨symbol, Hover.render symbol, word.range⟩)

def complete (registry : Registry) (d : Snapshot) (pos : Position) : Checked Completion := do
  let word ← d.wordUntil pos
  let range ← d.completionRange pos
  pure ⟨Candidate.ranked registry, word.text, range⟩

def signatureHelp (lookback : Nat) (d : Snapshot) (pos : Position) :
    Checked (Option SignatureHelp) := do
  match ← findCall d pos lookback with
  | none => pure none
  | some call =>
    match ← findIn FunctionEntry.name Symbol.functions call.function with
    | none => pure none
    | some f =>
      pure (some ⟨f, SignatureHelp.selectOverload f.signatures call.activeParameter,
        call.activeParameter⟩)

theorem findSomeM?_pure {α β : Type} (f : α → Option β) : ∀ xs : List α,
    xs.findSomeM? (fun x => (pure (f x) : Checked (Option β))) = pure (xs.findSome? f)
  | [] => rfl
  | x :: xs => by
    rw [List.findSomeM?, pure_bind, List.findSome?_cons]
    rcases f x with _ | y
    · exact findSomeM?_pure f xs
    · rfl

theorem resolve_eq (registry : Registry) (name : String) :
    resolve registry name = pure (registry.resolve name) := by
  simp only [resolve, findIn_eq, findSomeM?_pure]
  rfl

theorem function?_eq (registry : Registry) (name : String) :
    findIn FunctionEntry.name Symbol.functions name = pure (registry.function? name) :=
  findIn_eq _ _ _

variable {doc : Document}

theorem hover_eq (h : doc.Fits) (registry : Registry) (pos : Position) :
    hover registry doc.snapshot pos = pure (Hover.find registry doc pos) := by
  rw [hover, wordAt_eq h, pure_bind, Hover.find]
  rcases doc.wordAt pos with _ | word
  · rfl
  · simp only [resolve_eq, pure_bind, Option.bind_some]
    rcases registry.resolve word.text with _ | symbol
    · rfl
    · rfl

theorem complete_eq (h : doc.Fits) (registry : Registry) (pos : Position) :
    complete registry doc.snapshot pos = pure (Completion.find registry doc pos) := by
  rw [complete, wordUntil_eq h, pure_bind, completionRange_eq h, pure_bind]
  rfl

theorem signatureHelp_eq (h : doc.Fits) (registry : Registry) (lookback : Nat) (pos : Position) :
    signatureHelp lookback doc.snapshot pos
      = pure (SignatureHelp.find registry lookback doc pos) := by
  rw [signatureHelp, findCall_eq h, pure_bind, SignatureHelp.find]
  rcases CallSite.find doc pos lookback with _ | call
  · rfl
  · simp only [function?_eq registry, pure_bind, Option.bind_some]
    rcases registry.function? call.function with _ | f
    · rfl
    · rfl

theorem fits_ofText {text : String} (h : text.utf8ByteSize < wordLimit - 1) :
    (Document.ofText text).Fits := by
  rw [Document.Fits, Document.ofText, utf8Length_eq_utf8ByteSize, String.ofList_toList]
  omega

/-- No step that answers a question about a text of fewer than 2³² - 1 bytes goes out of a table,
cuts within a character, or leaves the words of 32 bits; and the answers are the server's. -/
theorem questions_faultFree (text : String) (h : text.utf8ByteSize < wordLimit - 1)
    (registry : Registry) :
    let doc := Document.ofText text
    (∃ d, Snapshot.ofText text.toList = .ok d ∧ d.source = text.toList
      ∧ d.lineStarts = doc.lineStarts ∧ d.lineCount = .ok doc.lineCount
      ∧ ∀ pos lookback,
        d.line? pos.line = .ok (doc.line? pos.line)
          ∧ d.wordAt pos = .ok (doc.wordAt pos)
          ∧ d.wordUntil pos = .ok (doc.wordUntil pos)
          ∧ d.completionRange pos = .ok (doc.completionRange pos)
          ∧ findCall d pos lookback = .ok (CallSite.find doc pos lookback)
          ∧ hover registry d pos = .ok (Hover.find registry doc pos)
          ∧ complete registry d pos = .ok (Completion.find registry doc pos)
          ∧ signatureHelp lookback d pos = .ok (SignatureHelp.find registry lookback doc pos))
      ∧ (∀ before, trailingIdentifier before = .ok (Text.trailingIdentifier before))
      ∧ ∀ (space : Namespace) (name : String) (i : Nat),
        (index Symbol.name (registry.table space))[name]? = some i →
          i < (registry.table space).length := by
  have hfits := fits_ofText h
  refine ⟨⟨_, ofText_eq hfits, rfl, rfl, lineCount_eq hfits, fun pos lookback => ?_⟩,
    trailingIdentifier_eq, fun space name i => index_lt _ _⟩
  exact ⟨line?_eq hfits _, wordAt_eq hfits pos, wordUntil_eq hfits pos,
    completionRange_eq hfits pos, findCall_eq hfits pos lookback, hover_eq hfits registry pos,
    complete_eq hfits registry pos, signatureHelp_eq hfits registry lookback pos⟩

theorem questions_faultFree_accented :
    let text := "mix(é, "
    text.utf8ByteSize < wordLimit - 1 ∧ ∃ d, Snapshot.ofText text.toList = .ok d
      ∧ d.wordAt ⟨0, 2⟩ = .ok (some ⟨"mix", ⟨⟨0, 0⟩, ⟨0, 3⟩⟩⟩)
      ∧ findCall d ⟨0, 7⟩ CallSite.defaultLookback = .ok (some ⟨"mix", 1⟩) := by
  have hsize : "mix(é, ".utf8ByteSize < wordLimit - 1 := by decide
  obtain ⟨⟨d, hd, -, -, -, hall⟩, -⟩ := questions_faultFree "mix(é, " hsize .builtin
  refine ⟨hsize, d, hd, ?_, ?_⟩
  · exact (hall ⟨0, 2⟩ 0).2.1.trans (by decide)
  · exact (hall ⟨0, 7⟩ CallSite.defaultLookback).2.2.2.2.1.trans (by decide)

end Checked

end GlslAssist
