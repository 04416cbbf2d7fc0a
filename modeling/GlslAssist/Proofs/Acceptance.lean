import GlslAssist.Proofs.Edits
import GlslAssist.Proofs.Lookup
import GlslAssist.Proofs.Tokens
import GlslAssist.Server.Encoding
import GlslAssist.Server.Message

/-!
# Accepting a completion

An editor that accepts a completion makes the edit that it finds in the item of the reply. What this
leaves on the line is one token: the label, with no identifier character on either side
(`accepted_is_token`). The range that is replaced is the whole run around the cursor, so nothing of
the old run is left to join the label; and every column of the token touches it, which is all that
later queries read.
-/

namespace GlslAssist

open Text

namespace Document

variable {doc : Document} {n : Nat} {a m b : List Char} {new : String}

/-- To put what already stands there changes nothing. -/
theorem edit?_same (h : doc.line? n = some (a ++ m ++ b)) :
    doc.edit? ⟨spanOf n a m, String.ofList m⟩ = some doc := by
  obtain ⟨ending, hp, hl⟩ := exists_piece h
  have hset : doc.pieces.set n (a ++ m ++ b ++ ending) = doc.pieces := by
    obtain ⟨hlt, he⟩ := List.getElem?_eq_some_iff.1 hp
    rw [← he, List.set_getElem_self]
  rw [edit?_spanOf hp hl, String.toList_ofList, hset, source_eq_intercalate]

/-- An identifier has as many columns as characters. -/
theorem spanOf_ident (hid : ∀ c ∈ new.toList, isIdentChar c = true) :
    spanOf n a new.toList = ⟨⟨n, utf16Length a⟩, ⟨n, utf16Length a + new.length⟩⟩ := by
  rw [spanOf, utf16Length_append,
    utf16Length_of_ascii fun c hc => ascii_of_isIdentChar (hid c hc), String.length_toList]

/-- An identifier in the place of part of a line changes no other line. -/
theorem exists_edit?_ident (hline : doc.line? n = some (a ++ m ++ b)) (hne : new.toList ≠ [])
    (hid : ∀ c ∈ new.toList, isIdentChar c = true) :
    ∃ edited, doc.edit? ⟨spanOf n a m, new⟩ = some edited
      ∧ edited.line? n = some (a ++ new.toList ++ b)
      ∧ ∀ k, k ≠ n → edited.pieces[k]? = doc.pieces[k]? ∧ edited.line? k = doc.line? k := by
  have hr : new.toList.getLast? ≠ some '\r' := fun h =>
    absurd (hid '\r' (List.mem_of_getLast? h)) (by decide)
  have hn : '\n' ∉ new.toList := fun h => absurd (hid '\n' h) (by decide)
  obtain ⟨edited, hresult, hedited, hothers⟩ := exists_edit?_spanOf hline hne hr hn
  refine ⟨edited, hresult, hedited, fun k hk => ⟨hothers k hk, ?_⟩⟩
  rw [line?_eq, hothers k hk, ← line?_eq]

/-- At every column of a run the run is the word and what a completion replaces. -/
theorem queries_of_isRun (hline : doc.line? n = some (a ++ new.toList ++ b))
    (hrun : IsRun a new.toList b) (hne : new.toList ≠ []) {k : Nat} (hk : k ≤ new.length) :
    doc.wordAt ⟨n, utf16Length a + k⟩ = some ⟨new, spanOf n a new.toList⟩
      ∧ doc.completionRange ⟨n, utf16Length a + k⟩ = spanOf n a new.toList := by
  have htouched := hrun.touched (k := k) (by rwa [String.length_toList])
  have hword := wordAt_of_touchedRun hline htouched
  rw [if_neg hne, String.ofList_toList] at hword
  exact ⟨hword, completionRange_of_touchedRun hline htouched⟩

end Document

/-! ## What an editor reads -/

def Position.ofJson? (v : Json) : Option Position := do
  return ⟨← Server.countAt v "line", ← Server.countAt v "character"⟩

def Range.ofJson? (v : Json) : Option Range := do
  return ⟨← Position.ofJson? (← v.field? "start"), ← Position.ofJson? (← v.field? "end")⟩

def TextEdit.ofJson? (v : Json) : Option TextEdit := do
  return ⟨← Range.ofJson? (← v.field? "range"), ← Server.textAt v "newText"⟩

namespace Completion

/-- The item at a place in a reply that lists items. -/
def item? (reply : Json) (i : Nat) : Option Json :=
  match reply with
  | .arr items => items[i]?
  | _ => none

/-- The edit that an item of a reply asks for. -/
def edit? (reply : Json) (i : Nat) : Option TextEdit :=
  (item? reply i).bind fun item => (item.field? "textEdit").bind TextEdit.ofJson?

variable {registry : Registry} {doc : Document} {pos : Position} {completion : Completion}
  {c : Candidate} {i : Nat}

theorem item?_toReply (h : completion.items[i]? = some c) :
    item? completion.toReply i = some (c.toReply completion.range) := by
  have hitems : item? completion.toReply i
      = (completion.items.map (Candidate.toReply completion.range))[i]? := rfl
  rw [hitems, List.getElem?_map, h, Option.map_some]

theorem edit?_toReply (h : completion.items[i]? = some c) :
    edit? completion.toReply i = some (c.edit completion.range) := by
  rw [edit?, item?_toReply h]
  rfl

/-- The candidates do not depend on the document, so only the range does. -/
theorem edit?_find (h : (Candidate.ranked registry)[i]? = some c) (hs : c.isSnippet = false) :
    edit? (find registry doc pos).toReply i = some ⟨doc.completionRange pos, c.label⟩ := by
  have hitem : (find registry doc pos).items[i]? = some c := h
  rw [edit?_toReply hitem, Candidate.edit,
    Candidate.insertText_of_mem_ranked (List.mem_of_getElem? h) hs]
  rfl

end Completion

/-! ## What is left on the line -/

variable {registry : Registry} {doc : Document} {pos : Position} {line : List Char} {c : Candidate}

/-- The edit in the item of a candidate whose label is an identifier puts the label in the place of
the run around the cursor, and nothing else changes. At every column of it the label is the word,
with the same range to complete, so that to accept the candidate again changes nothing; and its
symbol is found. -/
theorem accepted_is_token {i : Nat} (hline : doc.line? pos.line = some line)
    (hc : (Completion.find registry doc pos).items[i]? = some c) (hs : c.isSnippet = false)
    (hne : c.label ≠ "") (hid : ∀ x ∈ c.label.toList, isIdentChar x = true) :
    let before := takeBytes (columnToByte line pos.character) line
    let after := dropBytes (columnToByte line pos.character) line
    let reply := (Completion.find registry doc pos).toReply
    (Completion.item? reply i).bind (Server.textAt · "label") = some c.label
      ∧ ∃ edit edited, Completion.edit? reply i = some edit ∧ doc.edit? edit = some edited
        ∧ (∀ n, n ≠ pos.line →
          edited.pieces[n]? = doc.pieces[n]? ∧ edited.line? n = doc.line? n)
        ∧ edited.line? pos.line
          = some (before.rdropWhile isIdentChar ++ c.label.toList ++ after.dropWhile isIdentChar)
        ∧ ∀ k ≤ c.label.length,
          let start := edit.range.start.character
          let token : Range := ⟨⟨pos.line, start⟩, ⟨pos.line, start + c.label.length⟩⟩
          let here : Position := ⟨pos.line, start + k⟩
          edited.wordAt here = some ⟨c.label, token⟩
            ∧ edited.completionRange here = token
            ∧ (Completion.edit? (Completion.find registry edited here).toReply i).bind edited.edit?
              = some edited
            ∧ ∃ hover, Hover.find registry edited here = some hover
              ∧ hover.symbol.name = c.label ∧ hover.range = token := by
  obtain ⟨p, q, hparts⟩ := Document.exists_partsAt hline
  obtain rfl : line = p ++ q := Option.some.inj (hline.symm.trans hparts.line)
  have hlist : c.label.toList ≠ [] := by rwa [Ne, String.toList_eq_nil_iff]
  rw [parts_eq p q] at hline
  obtain ⟨edited, hresult, hedited, hothers⟩ := Document.exists_edit?_ident hline hlist hid
  have hrun : IsRun (p.rdropWhile isIdentChar) c.label.toList (q.dropWhile isIdentChar) :=
    { isRun_runAround p q with ident := hid }
  have hsame := Document.edit?_same hedited
  rw [String.ofList_toList] at hsame
  obtain ⟨sym, hsym, hname⟩ := Candidate.resolve_label (List.mem_of_getElem? hc) hs
  simp only [hparts.offset, takeBytes_append, dropBytes_append]
  refine ⟨?_, ⟨spanOf pos.line (p.rdropWhile isIdentChar) (runAround p q), c.label⟩, edited, ?_,
    hresult, hothers, hedited, fun k hk => ?_⟩
  · rw [Completion.item?_toReply hc]
    rfl
  · rw [Completion.edit?_find hc hs, Document.completionRange_of_partsAt hparts]
  · obtain ⟨hword, hrange⟩ := Document.queries_of_isRun hedited hrun hlist hk
    simp only [spanOf_start, ← Document.spanOf_ident hid]
    rw [Completion.edit?_find hc hs, hrange]
    refine ⟨hword, rfl, hsame, ⟨sym, Hover.render sym, _⟩, ?_, hname, rfl⟩
    rw [Hover.find, hword, Option.bind_some, hsym]
    rfl

/-- The cursor is inside a name after a letter of two bytes, on a line that ends in a return. -/
theorem accepted_uniform_is_token :
    let registry : Registry := ⟨[⟨"u_seed", "float", "Seed."⟩]⟩
    let doc := Document.ofText "é u_s;\r\nx"
    let c := Candidate.ofSymbol (.uniform ⟨"u_seed", "float", "Seed."⟩)
    let completion := Completion.find registry doc ⟨0, 4⟩
    ∃ i, completion.items[i]? = some c
      ∧ Completion.edit? completion.toReply i = some ⟨⟨⟨0, 2⟩, ⟨0, 5⟩⟩, "u_seed"⟩
      ∧ ∃ edited, doc.edit? ⟨⟨⟨0, 2⟩, ⟨0, 5⟩⟩, "u_seed"⟩ = some edited
        ∧ edited.line? 0 = some "é u_seed;".toList
        ∧ edited.wordAt ⟨0, 8⟩ = some ⟨"u_seed", ⟨⟨0, 2⟩, ⟨0, 8⟩⟩⟩
        ∧ (Completion.edit? (Completion.find registry edited ⟨0, 8⟩).toReply i).bind edited.edit?
          = some edited := by
  intro registry doc c completion
  have hmem : c ∈ completion.items :=
    Candidate.mem_ranked_iff.2 ⟨_, Registry.mem_symbols_iff.2 (by simp [registry, Symbol.space,
      Registry.table, Registry.uniforms]), rfl⟩
  obtain ⟨i, hi⟩ := List.getElem?_of_mem hmem
  have hrange : completion.range = ⟨⟨0, 2⟩, ⟨0, 5⟩⟩ := by decide
  obtain ⟨-, edit, edited, hedit, hresult, -, hline, htoken⟩ :=
    @accepted_is_token registry doc ⟨0, 4⟩ "é u_s;".toList c i (by decide) hi (by decide)
      (by decide) (List.all_eq_true.1 (by decide))
  have hitem := Completion.edit?_toReply hi
  rw [hrange] at hitem
  obtain rfl := Option.some.inj (hitem.symm.trans hedit)
  have hlen : 6 ≤ "u_seed".length := by decide
  obtain ⟨hword, -, hagain, -⟩ := htoken 6 hlen
  exact ⟨i, hi, hitem, edited, hresult, hline.trans (by decide), hword.trans (by decide), hagain⟩

end GlslAssist
