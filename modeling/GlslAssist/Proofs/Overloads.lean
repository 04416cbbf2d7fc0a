import GlslAssist.Proofs.Bytes
import GlslAssist.Proofs.Lookup
import GlslAssist.Server.Encoding

/-!
# Overloads as they are shown

The overloads of a function are shown twice: a hover has one block of code for each before its note,
and the reply to a request for signature help lists them. Both are read back here (`codeBlocks`,
`overloadLabels`), and for every function of the language the same labels come out in the same order
(`codeBlocks_render`). No label breaks a line or is itself a line that ends a block, which is a fact
about the table (`label_of_mem_functions`).
-/

namespace GlslAssist

open Text

namespace Hover

/-- The line that begins a block of code. -/
def opening : List Char := "```glsl".toList

/-- The line that ends a block of code. -/
def closing : List Char := "```".toList

/-- Reads the blocks of code that some lines of Markdown begin with; `block` is the one that is being
read, and one that nothing ends goes on to the last line. -/
def readBlocks : (block : Option (List (List Char))) → List (List Char) → List (List (List Char))
  | none, [] => []
  | some block, [] => [block]
  | none, line :: rest => if line = opening then readBlocks (some []) rest else []
  | some block, line :: rest =>
    if line = closing then block :: readBlocks none rest else readBlocks (some (block ++ [line])) rest

/-- The code of the blocks that a Markdown text begins with. -/
def codeBlocks (markdown : String) : List String :=
  (readBlocks none (markdown.toList.splitOn '\n')).map fun block =>
    String.ofList (['\n'].intercalate block)

example : codeBlocks "```glsl\na\nb\n```\n```glsl\nc\n```\n\nd" = ["a\nb", "c"] := by decide

theorem toList_codeBlock (code : String) :
    (codeBlock code).toList = opening ++ '\n' :: (code.toList ++ '\n' :: closing) := by
  have hopen : "```glsl\n".toList = opening ++ ['\n'] := by decide
  have hclose : "\n```".toList = '\n' :: closing := by decide
  rw [codeBlock, String.toList_append, String.toList_append, hopen, hclose]
  simp only [List.append_assoc, List.cons_append, List.nil_append]

/-- Reading goes on after a block of one line. -/
theorem readBlocks_codeBlock {code : String} (hline : '\n' ∉ code.toList)
    (hclosing : code.toList ≠ closing) (text : List Char) :
    readBlocks none (((codeBlock code).toList ++ '\n' :: text).splitOn '\n')
      = [code.toList] :: readBlocks none (text.splitOn '\n') := by
  have hopen : '\n' ∉ opening := by decide
  have hclose : '\n' ∉ closing := by decide
  rw [toList_codeBlock, List.append_assoc, List.cons_append, List.append_assoc, List.cons_append,
    List.splitOn_append_cons_self_of_not_mem hopen, List.splitOn_append_cons_self_of_not_mem hline,
    List.splitOn_append_cons_self_of_not_mem hclose, readBlocks, if_pos rfl, readBlocks,
    if_neg hclosing, readBlocks, if_pos rfl, List.nil_append]

/-- The blocks of some lines of code, and then an empty line and a note, whatever it says. -/
theorem readBlocks_intercalate (note : List Char) : ∀ {codes : List String},
    (∀ code ∈ codes, '\n' ∉ code.toList ∧ code.toList ≠ closing) →
      readBlocks none (((String.intercalate "\n" (codes.map codeBlock)).toList
          ++ '\n' :: '\n' :: note).splitOn '\n')
        = codes.map fun code => [code.toList]
  | [], _ => by
    have hnil : ([] : List Char) ≠ opening := by decide
    rw [List.map_nil, String.intercalate_nil, String.toList_empty,
      List.splitOn_append_cons_self_of_not_mem List.not_mem_nil, readBlocks, if_neg hnil,
      List.map_nil]
  | [code], h => by
    obtain ⟨hline, hclosing⟩ := h code List.mem_cons_self
    have hnil : ([] : List Char) ≠ opening := by decide
    have hempty : '\n' ∉ ([] : List Char) := List.not_mem_nil
    have hblank : ('\n' :: note).splitOn '\n' = [] :: note.splitOn '\n' :=
      List.splitOn_append_cons_self_of_not_mem hempty note
    rw [List.map_singleton, String.intercalate_singleton, readBlocks_codeBlock hline hclosing, hblank,
      readBlocks, if_neg hnil, List.map_singleton]
  | code :: code' :: codes, h => by
    obtain ⟨hline, hclosing⟩ := h code List.mem_cons_self
    have ih := readBlocks_intercalate note fun c hc => h c (List.mem_cons_of_mem code hc)
    have hjoin : (String.intercalate "\n" ((code :: code' :: codes).map codeBlock)).toList
        = (codeBlock code).toList
          ++ '\n' :: (String.intercalate "\n" ((code' :: codes).map codeBlock)).toList := by
      simp [String.intercalate_cons_cons]
    rw [hjoin, List.append_assoc, List.cons_append, readBlocks_codeBlock hline hclosing, ih]
    rfl

end Hover

namespace SignatureHelp

/-- The label of one entry of a list of overloads. -/
def label? (item : Json) : Option String :=
  match item.field? "label" with
  | some (.str label) => some label
  | _ => none

/-- The labels that a reply with signature help lists. -/
def overloadLabels (reply : Json) : List String :=
  match reply.field? "signatures" with
  | some (.arr items) => items.filterMap label?
  | _ => []

theorem overloadLabels_toReply (help : SignatureHelp) :
    overloadLabels help.toReply = help.function.signatures.map Signature.label := by
  let item (s : Signature) : Json :=
    .obj [("label", .str s.label), ("documentation", markup help.function.description),
      ("parameters", .arr (s.parameters.map Parameter.toJson))]
  have hitems : overloadLabels help.toReply
      = (help.function.signatures.map item).filterMap label? := rfl
  have hlabel : label? ∘ item = some ∘ Signature.label := rfl
  rw [hitems, List.filterMap_map, hlabel, List.filterMap_eq_map]

end SignatureHelp

/-- An ASCII character of a text is a byte of it. -/
theorem mem_toList_iff {c : Char} (hc : IsAscii c) {s : String} :
    c ∈ s.toList ↔ c.toUInt8 ∈ s.toByteArray.data.toList := by
  rw [← bytes_toList, bytes, List.mem_flatMap]
  constructor
  · refine fun hmem => ⟨c, hmem, ?_⟩
    rw [encode_of_ascii hc, List.mem_singleton]
    rfl
  · rintro ⟨d, hd, hb⟩
    rwa [← (eq_toUInt8_iff hc hb).1 rfl]

/-- The label of every overload is one line, and has a parenthesis, which no line around a block of
code does. The table is evaluated in bytes, since these are what its texts are joined from. -/
theorem label_of_mem_functions {f : FunctionEntry} (hf : f ∈ Symbol.functions) {s : Signature}
    (hs : s ∈ f.signatures) : '\n' ∉ s.label.toList ∧ s.label.toList ≠ Hover.closing := by
  have htable : ∀ f ∈ Symbol.functions, ∀ s ∈ f.signatures,
      '\n'.toUInt8 ∉ s.label.toByteArray.data.toList
        ∧ '('.toUInt8 ∈ s.label.toByteArray.data.toList := by
    decide +kernel
  obtain ⟨hline, hparenthesis⟩ := htable f hf s hs
  rw [← mem_toList_iff (by decide)] at hline hparenthesis
  refine ⟨hline, fun heq => ?_⟩
  rw [heq] at hparenthesis
  exact absurd hparenthesis (by decide)

/-- The overloads that a hover on a function shows are those that the reply with help for a call of it
lists, in the same order. -/
theorem codeBlocks_render {help : SignatureHelp} (h : help.function ∈ Symbol.functions) :
    Hover.codeBlocks (Hover.render (.function help.function))
      = SignatureHelp.overloadLabels help.toReply := by
  have hlabels : ∀ code ∈ help.function.signatures.map Signature.label,
      '\n' ∉ code.toList ∧ code.toList ≠ Hover.closing := by
    intro code hcode
    obtain ⟨s, hs, rfl⟩ := List.mem_map.1 hcode
    exact label_of_mem_functions h hs
  have hblocks := Hover.readBlocks_intercalate (Hover.functionNote help.function).toList hlabels
  rw [List.map_map] at hblocks
  have htext : (Hover.render (.function help.function)).toList
      = (String.intercalate "\n" (help.function.signatures.map fun s =>
          Hover.codeBlock s.label)).toList
        ++ '\n' :: '\n' :: (Hover.functionNote help.function).toList := by
    rw [Hover.render, String.toList_append, String.toList_append, List.append_assoc]
    rfl
  rw [Hover.codeBlocks, htext, SignatureHelp.overloadLabels_toReply]
  refine (congrArg _ hblocks).trans ?_
  rw [List.map_map, List.map_map]
  refine List.map_congr_left fun s _ => ?_
  rw [Function.comp_apply, Function.comp_apply, List.intercalate_singleton, String.ofList_toList]

end GlslAssist
