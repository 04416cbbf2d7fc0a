import GlslAssist.Proofs.Extension
import GlslAssist.Proofs.OpenCalls
import GlslAssist.Proofs.Overloads

/-!
# The name that a call is made by

The name of a call is read in two ways: signature help reads it backwards from the parenthesis, past
any blanks, and a hover reads the word on either side of the cursor. At the place where the text
before the parenthesis ends, blanks left aside, nothing of a word follows, so both read the same run
of identifier characters. They part only where the run begins with a digit, which the first leaves
out; in every other case a hover there shows the function that the help is about (`hover_on_called`).
-/

namespace GlslAssist

namespace Text

/-- A blank is no part of an identifier. -/
theorem isIdentChar_of_isBlank {c : Char} (h : isBlank c = true) : isIdentChar c = false := by
  have hall : ∀ n < 128, isBlank (Char.ofNat n) = true → isIdentChar (Char.ofNat n) = false := by
    decide
  rw [← Bool.not_eq_true]
  intro hident
  have hc := hall c.toNat (ascii_of_isIdentChar hident)
  rw [Char.ofNat_toNat] at hc
  rw [hc h] at hident
  exact Bool.noConfusion hident

theorem trimEnd_append_blanks (text : List Char) :
    trimEnd text ++ text.rtakeWhile isBlank = text :=
  List.rdropWhile_append_rtakeWhile

theorem takeWhile_blanks (text rest : List Char) :
    (text.rtakeWhile isBlank ++ '(' :: rest).takeWhile isIdentChar = [] := by
  have hblank : ∀ c ∈ text.rtakeWhile isBlank, isBlank c = true := fun _ => List.mem_rtakeWhile_imp
  rcases hblanks : text.rtakeWhile isBlank with _ | ⟨c, blanks⟩
  · rfl
  · have hc := isIdentChar_of_isBlank (hblank c (hblanks ▸ List.mem_cons_self))
    rw [List.cons_append, List.takeWhile_cons, hc]
    rfl

/-- A name whose run begins with no digit is the whole run. -/
theorem trailingRun_of_trailingIdentifier {text name : List Char}
    (h : trailingIdentifier text = some name)
    (hdigit : ∀ c ∈ (trailingRun (trimEnd text)).head?, c.isDigit = false) :
    trailingRun (trimEnd text) = name ∧ name ≠ [] := by
  rw [trailingIdentifier] at h
  rcases hrun : trailingRun (trimEnd text) with _ | ⟨c, run⟩
  · simp [hrun] at h
  · have hc : ¬ c.isDigit = true := by
      rw [hdigit c (by rw [hrun]; rfl)]
      decide
    rw [hrun, List.dropWhile_cons_of_neg hc] at h
    obtain rfl := Option.some.inj h
    exact ⟨rfl, List.cons_ne_nil c run⟩

end Text

open Text

namespace Document

variable {doc : Document} {n : Nat} {before rest name : List Char}

/-- At the end of the text before a parenthesis, blanks left aside, the word is the trailing run. -/
theorem wordAt_before_parenthesis (hline : doc.line? n = some (before ++ '(' :: rest))
    (hname : trailingIdentifier before = some name)
    (hdigit : ∀ c ∈ (trailingRun (trimEnd before)).head?, c.isDigit = false) :
    doc.wordAt ⟨n, utf16Length (trimEnd before)⟩
      = some ⟨String.ofList name, spanOf n ((trimEnd before).rdropWhile isIdentChar) name⟩ := by
  obtain ⟨hrun, hne⟩ := trailingRun_of_trailingIdentifier hname hdigit
  have hparts : doc.PartsAt ⟨n, utf16Length (trimEnd before)⟩ (trimEnd before)
      (before.rtakeWhile isBlank ++ '(' :: rest) := by
    refine partsAt_column ?_
    rw [hline, ← List.append_assoc, trimEnd_append_blanks]
  have haround : runAround (trimEnd before) (before.rtakeWhile isBlank ++ '(' :: rest) = name := by
    rw [runAround, takeWhile_blanks, List.append_nil]
    exact hrun
  rw [wordAt_of_partsAt hparts, haround, if_neg hne]

end Document

namespace Registry

variable {r : Registry} {name : String} {f : FunctionEntry}

/-- A name that a function has means that function. -/
theorem resolve_of_function? (h : r.function? name = some f) :
    r.resolve name = some (.function f) := by
  have hlookup : builtin.lookup .function name = (r.function? name).map .function := by
    rw [lookup, table, findRev?_map]
    rfl
  rw [resolve_eq, hlookup, h, Option.map_some, Option.some_or]

end Registry

namespace CallSite

variable {doc : Document} {pos : Position} {lookback : Nat}

theorem line_of_mem_textBefore {n : Nat} {l : List Char} (h : (n, l) ∈ textBefore doc pos lookback) :
    pos.line - lookback ≤ n ∧ n ≤ pos.line := by
  rw [textBefore] at h
  split at h
  · simp at h
  · rcases List.mem_append.1 h with h | h
    · obtain ⟨m, hm, heq⟩ := List.mem_filterMap.1 h
      obtain ⟨_, -, heq⟩ := Option.map_eq_some_iff.1 heq
      obtain ⟨rfl, -⟩ := Prod.mk.inj heq
      rw [List.mem_range'_1] at hm
      omega
    · obtain ⟨rfl, -⟩ := Prod.mk.inj (List.mem_singleton.1 h)
      omega

/-- The innermost call that is open has its parenthesis in the text of the window. -/
theorem exists_text_of_innermost {top : Frame}
    (h : (openCalls (textBefore doc pos lookback)).head? = some top) :
    ∃ before rest, top.offset = utf8Length before
      ∧ (top.line, before ++ '(' :: rest) ∈ textBefore doc pos lookback := by
  have hread := readLines_textBefore doc pos lookback
  split at hread
  · rw [hread] at h
    exact absurd h (by simp)
  · obtain ⟨n, outer, rest, hopen, hmem⟩ := hread
    rw [hopen, List.head?_cons, Option.some.injEq] at h
    subst h
    exact ⟨_, rest, rfl, hmem⟩

/-- Where a call site that is reported has its parenthesis, and its name before it. -/
theorem exists_parenthesis {site : CallSite} (h : find doc pos lookback = some site) :
    ∃ n before rest name, doc.line? n = some (before ++ '(' :: rest)
      ∧ pos.line - lookback ≤ n ∧ n ≤ pos.line
      ∧ (openCalls (textBefore doc pos lookback)).head?
        = some ⟨n, utf8Length before, site.activeParameter⟩
      ∧ trailingIdentifier before = some name ∧ site.function = String.ofList name := by
  rw [find_eq_innermost] at h
  obtain ⟨top, htop, hsite⟩ := Option.bind_eq_some_iff.1 h
  obtain ⟨before, rest, hoffset, hmem⟩ := exists_text_of_innermost htop
  obtain ⟨after, hline⟩ := exists_line_of_mem_textBefore hmem
  obtain ⟨hfirst, hlast⟩ := line_of_mem_textBefore hmem
  rw [List.append_assoc, List.cons_append] at hline
  rw [Frame.callSite?, hline, Option.bind_some, hoffset, slice_zero_append] at hsite
  obtain ⟨name, hname, rfl⟩ := Option.map_eq_some_iff.1 hsite
  refine ⟨top.line, before, rest ++ after, name, hline, hfirst, hlast, ?_, hname, rfl⟩
  rw [htop, ← hoffset]

end CallSite

/-- A hover at the end of a function's name before a parenthesis shows the function, over the name. -/
theorem Hover.find_before_parenthesis {registry : Registry} {doc : Document} {n : Nat}
    {before rest name : List Char} {f : FunctionEntry}
    (hline : doc.line? n = some (before ++ '(' :: rest))
    (hname : trailingIdentifier before = some name)
    (hdigit : ∀ c ∈ (trailingRun (trimEnd before)).head?, c.isDigit = false)
    (hf : registry.function? (String.ofList name) = some f) :
    find registry doc ⟨n, utf16Length (trimEnd before)⟩
      = some ⟨.function f, render (.function f),
        spanOf n ((trimEnd before).rdropWhile isIdentChar) name⟩ := by
  rw [find, Document.wordAt_before_parenthesis hline hname hdigit, Option.bind_some,
    Registry.resolve_of_function? hf]
  rfl

/-- Help is given for a call that is reported and whose name is a function's. -/
theorem SignatureHelp.exists_call {registry : Registry} {lookback : Nat} {doc : Document}
    {pos : Position} {help : SignatureHelp} (h : find registry lookback doc pos = some help) :
    ∃ site, CallSite.find doc pos lookback = some site
      ∧ registry.function? site.function = some help.function
      ∧ help.activeParameter = site.activeParameter := by
  obtain ⟨site, hsite, hhelp⟩ := Option.bind_eq_some_iff.1 h
  obtain ⟨f, hf, rfl⟩ := Option.map_eq_some_iff.1 hhelp
  exact ⟨site, hsite, hf, rfl⟩

/-- Where help is given for a call, some line of the window has the parenthesis of the innermost call
that is open, and the text before it ends, blanks left aside, with the name. If the identifier
characters there begin with no digit, a hover at their end shows the function of the help, over the
name and no more, with the overloads that the reply with the help lists. -/
theorem hover_on_called {registry : Registry} {lookback : Nat} {doc : Document} {pos : Position}
    {help : SignatureHelp} (h : SignatureHelp.find registry lookback doc pos = some help) :
    ∃ n before rest, doc.line? n = some (before ++ '(' :: rest)
      ∧ pos.line - lookback ≤ n ∧ n ≤ pos.line
      ∧ (CallSite.openCalls (CallSite.textBefore doc pos lookback)).head?
        = some ⟨n, utf8Length before, help.activeParameter⟩
      ∧ ((∀ c ∈ (trailingRun (trimEnd before)).head?, c.isDigit = false) →
        ∃ hover, Hover.find registry doc ⟨n, utf16Length (trimEnd before)⟩ = some hover
          ∧ hover.symbol = .function help.function
          ∧ hover.range.start.line = n ∧ hover.range.stop = ⟨n, utf16Length (trimEnd before)⟩
          ∧ slice (before ++ '(' :: rest)
              (columnToByte (before ++ '(' :: rest) hover.range.start.character)
              (columnToByte (before ++ '(' :: rest) hover.range.stop.character)
            = help.function.name.toList
          ∧ Hover.codeBlocks hover.markdown = SignatureHelp.overloadLabels help.toReply) := by
  obtain ⟨site, hsite, hf, hactive⟩ := SignatureHelp.exists_call h
  obtain ⟨n, before, rest, name, hline, hfirst, hlast, hopen, hname, hsame⟩ :=
    CallSite.exists_parenthesis hsite
  rw [hsame] at hf
  rw [hactive]
  refine ⟨n, before, rest, hline, hfirst, hlast, hopen, fun hdigit => ?_⟩
  have hnamed := Registry.function?_eq_some_iff.1 hf
  have hwhole : (trimEnd before).rdropWhile isIdentChar ++ name = trimEnd before := by
    rw [← (trailingRun_of_trailingIdentifier hname hdigit).1]
    exact List.rdropWhile_append_rtakeWhile
  have hparts : before ++ '(' :: rest = (trimEnd before).rdropWhile isIdentChar ++ name
      ++ (before.rtakeWhile isBlank ++ '(' :: rest) := by
    rw [hwhole, ← List.append_assoc, trimEnd_append_blanks]
  refine ⟨_, Hover.find_before_parenthesis hline hname hdigit hf, rfl, rfl, ?_, ?_,
    codeBlocks_render hnamed.mem⟩
  · rw [spanOf, hwhole]
  · rw [hnamed.1, String.toList_ofList, hparts]
    exact slice_columns _ _ _

example : SignatureHelp.find .builtin 20 (.ofText "2sin(") ⟨0, 5⟩ ≠ none
    ∧ Hover.find .builtin (.ofText "2sin(") ⟨0, 4⟩ = none := by
  decide

/-- Between the name and its parenthesis is a blank of three bytes, before the name a letter of two,
and the cursor is on the next line. -/
theorem hover_on_called_blank :
    let doc := Document.ofText "π=mix\u3000(a,\nf(b), "
    ∃ help, SignatureHelp.find .builtin 1 doc ⟨1, 6⟩ = some help
      ∧ ∃ hover, Hover.find .builtin doc ⟨0, 5⟩ = some hover
        ∧ hover.symbol = .function help.function ∧ help.function.name = "mix"
        ∧ Hover.codeBlocks hover.markdown = SignatureHelp.overloadLabels help.toReply := by
  intro doc
  obtain ⟨help, h⟩ := Option.isSome_iff_exists.1
    (by decide : (SignatureHelp.find .builtin 1 doc ⟨1, 6⟩).isSome = true)
  have hname : (SignatureHelp.find .builtin 1 doc ⟨1, 6⟩).map (·.function.name) = some "mix" := by
    decide
  rw [h, Option.map_some, Option.some.injEq] at hname
  obtain ⟨n, before, rest, hline, -, -, hopen, hhover⟩ := hover_on_called h
  have htop : (CallSite.openCalls (CallSite.textBefore doc ⟨1, 6⟩ 1)).head?.map
      (fun f => (f.line, f.offset)) = some (0, 9) := by
    decide
  rw [hopen, Option.map_some, Option.some.injEq, Prod.mk.injEq] at htop
  obtain ⟨rfl, hoffset⟩ := htop
  have hoffset : utf8Length before = 9 := hoffset
  have hbefore : before = "π=mix\u3000".toList := by
    have hcut := takeBytes_append before ('(' :: rest)
    have hwhole : doc.line? 0 = some "π=mix\u3000(a,".toList := by decide
    rw [hoffset, ← Option.some.inj (hwhole.symm.trans hline)] at hcut
    exact hcut.symm.trans (by decide)
  subst hbefore
  have hdigit : ∀ c ∈ (trailingRun (trimEnd "π=mix\u3000".toList)).head?, c.isDigit = false := by
    have hfirst : (trailingRun (trimEnd "π=mix\u3000".toList)).head? = some 'm' := by decide
    intro c hc
    rw [hfirst] at hc
    obtain rfl := Option.some.inj hc
    rfl
  obtain ⟨hover, hfind, hsymbol, -, -, -, hblocks⟩ := hhover hdigit
  exact ⟨help, h, hover, hfind, hsymbol, hname, hblocks⟩

end GlslAssist
