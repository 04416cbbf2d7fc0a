import GlslAssist.Proofs.ByteOrder
import GlslAssist.Proofs.Ranking

/-!
# The order of display

Sort keys compared byte by byte put candidates in the order of their kinds, and those of one kind in
the order of their labels (`bytes_sortText_le_iff`): a rank is one digit, so the labels meet behind keys of
one length. The ranking is therefore every table of the registry, each sorted by name, kind after
kind, with entries of one name as they are declared (`ranked_faithful`).
-/

namespace GlslAssist

open Text

/-- The kinds of candidates in the order of display. -/
def CandidateKind.displayed : List CandidateKind :=
  [.uniform, .snippet, .function, .type, .builtin, .keyword]

namespace CandidateKind

theorem rank_eq_idxOf (k : CandidateKind) : k.rank = displayed.idxOf k := by
  cases k <;> rfl

/-- The byte of a rank, which is one digit. -/
def rankByte (k : CandidateKind) : UInt8 :=
  UInt8.ofNat (48 + k.rank)

theorem bytes_rank (k : CandidateKind) : bytes (toString k.rank).toList = [k.rankByte] := by
  cases k <;> decide

theorem rankByte_lt_iff (k l : CandidateKind) :
    k.rankByte < l.rankByte ↔ displayed.idxOf k < displayed.idxOf l := by
  cases k <;> cases l <;> decide

theorem rankByte_inj {k l : CandidateKind} : k.rankByte = l.rankByte ↔ k = l := by
  cases k <;> cases l <;> decide

end CandidateKind

namespace Registry

variable {r : Registry}

theorem filter_table (space other : Namespace) :
    (r.table other).filter (fun sym => sym.space = space)
      = if other = space then r.table space else [] := by
  split_ifs with h
  · subst h
    exact List.filter_eq_self.2 fun sym hsym => decide_eq_true (space_of_mem_table hsym)
  · exact List.filter_eq_nil_iff.2 fun sym hsym => by simp [space_of_mem_table hsym, h]

/-- The symbols of one namespace are listed as its table has them. -/
theorem filter_symbols (space : Namespace) :
    r.symbols.filter (fun sym => sym.space = space) = r.table space := by
  simp only [symbols, Namespace.all, List.flatMap_cons, List.flatMap_nil, List.filter_append,
    List.filter_nil, filter_table]
  cases space <;> simp

end Registry

namespace Candidate

variable {r : Registry}

/-- The candidate's kind is displayed earlier, or the kinds are the same and its label comes first by
its bytes, or is the same. -/
def Precedes (c d : Candidate) : Prop :=
  CandidateKind.displayed.idxOf c.kind < CandidateKind.displayed.idxOf d.kind
    ∨ c.kind = d.kind ∧ bytes c.label.toList ≤ bytes d.label.toList

theorem bytes_sortText (c : Candidate) :
    bytes c.sortText.toList = c.kind.rankByte :: '_'.toUInt8 :: bytes c.label.toList := by
  have hline : bytes "_".toList = ['_'.toUInt8] := by decide
  rw [sortText, String.toList_append, String.toList_append, bytes_append, bytes_append,
    CandidateKind.bytes_rank, hline]
  rfl

theorem bytes_sortText_le_iff {c d : Candidate} :
    bytes c.sortText.toList ≤ bytes d.sortText.toList ↔ c.Precedes d := by
  rw [bytes_sortText, bytes_sortText, List.cons_le_cons_iff, List.cons_le_cons_iff,
    CandidateKind.rankByte_lt_iff, CandidateKind.rankByte_inj, Precedes]
  simp

theorem sortText_le_iff {c d : Candidate} : c.sortText ≤ d.sortText ↔ c.Precedes d := by
  rw [← bytes_le_bytes_iff, bytes_sortText_le_iff]

theorem ranked_pairwise (r : Registry) : (ranked r).Pairwise Precedes := by
  have h := List.pairwise_mergeSort sortText_trans sortText_total (r.symbols.map ofSymbol)
  exact h.imp fun hle => sortText_le_iff.1 (of_decide_eq_true hle)

theorem kind_ofSymbol_eq_iff {sym : Symbol} {kind : CandidateKind} :
    (ofSymbol sym).kind = kind ↔ sym.space = kind.space := by
  cases sym <;> cases kind <;> simp [ofSymbol, Symbol.space, CandidateKind.space]

/-- The candidates of one kind and label, as the table of that kind's namespace has them. -/
theorem filter_map_ofSymbol (kind : CandidateKind) (label : String) :
    (r.symbols.map ofSymbol).filter (fun c => c.kind = kind ∧ c.label = label)
      = ((r.table kind.space).map ofSymbol).filter fun c => c.label = label := by
  rw [← Registry.filter_symbols, List.filter_map, List.filter_map, List.filter_filter]
  congr 1
  refine List.filter_congr fun sym _ => ?_
  simp [kind_ofSymbol_eq_iff, and_comm]

theorem filter_ranked (kind : CandidateKind) (label : String) :
    (ranked r).filter (fun c => c.kind = kind ∧ c.label = label)
      = ((r.table kind.space).map ofSymbol).filter fun c => c.label = label := by
  rw [← filter_map_ofSymbol, ranked]
  refine filter_mergeSort sortText_trans sortText_total (fun c d hc hd => ?_) _
  obtain ⟨hkind, hlabel⟩ := of_decide_eq_true hc
  obtain ⟨hkind', hlabel'⟩ := of_decide_eq_true hd
  have hsame : c.sortText = d.sortText := by
    rw [sortText, sortText, hkind, hkind', hlabel, hlabel']
  exact decide_eq_true (hsame ▸ String.le_refl c.sortText)

/-- The ranking has one candidate for every symbol, of the symbol's name and namespace. The
candidates stand in the order of their kinds, those of one kind in the order of their labels, and
those of one label in the order of their table; the order of the sort keys is this one. Every label
is found in the namespace of its kind. -/
theorem ranked_faithful (r : Registry) :
    (ranked r).Perm (r.symbols.map ofSymbol)
      ∧ (∀ sym, (ofSymbol sym).label = sym.name ∧ (ofSymbol sym).kind.space = sym.space)
      ∧ (ranked r).Pairwise Precedes
      ∧ (∀ kind label, (ranked r).filter (fun c => c.kind = kind ∧ c.label = label)
        = ((r.table kind.space).map ofSymbol).filter fun c => c.label = label)
      ∧ (∀ c : Candidate,
        c.sortText = toString (CandidateKind.displayed.idxOf c.kind) ++ "_" ++ c.label)
      ∧ (∀ c d : Candidate, bytes c.sortText.toList ≤ bytes d.sortText.toList ↔ c.Precedes d)
      ∧ ∀ c ∈ ranked r, ∃ sym ∈ r.table c.kind.space,
        sym.name = c.label ∧ r.lookup c.kind.space c.label = some sym := by
  refine ⟨ranked_perm r, fun sym => ⟨label_ofSymbol sym, space_ofSymbol sym⟩, ranked_pairwise r,
    filter_ranked, fun c => ?_, fun _ _ => bytes_sortText_le_iff, fun c hc => ?_⟩
  · rw [sortText, CandidateKind.rank_eq_idxOf]
  · obtain ⟨sym, hsym, rfl⟩ := mem_ranked_iff.1 hc
    obtain ⟨found, hfound⟩ := Registry.exists_lookup (Registry.mem_symbols_iff.1 hsym)
    obtain ⟨hmem, hname⟩ := Registry.of_lookup hfound
    rw [space_ofSymbol, label_ofSymbol]
    exact ⟨found, hmem, hname, hfound⟩

/-- Two uniforms without a name: both are offered, in the order of their declarations, and the lookup
finds the later one. -/
theorem ranked_faithful_unnamed :
    let int : Variable := ⟨"", "int", ""⟩
    let vec : Variable := ⟨"", "vec2", ""⟩
    let r : Registry := ⟨[int, ⟨"u_é", "float", ""⟩, vec]⟩
    let c := ofSymbol (.uniform int)
    c ∈ ranked r
      ∧ (ranked r).filter (fun c => c.kind = .uniform ∧ c.label = "")
        = [c, ofSymbol (.uniform vec)]
      ∧ ∃ sym ∈ r.table .uniform, sym.name = "" ∧ r.lookup .uniform "" = some sym := by
  intro int vec r c
  have hc : c ∈ ranked r := mem_ranked_of_mem_uniforms (by decide)
  obtain ⟨-, -, -, hfilter, -, -, hlookup⟩ := ranked_faithful r
  exact ⟨hc, (hfilter .uniform "").trans (by decide), hlookup c hc⟩

end Candidate

end GlslAssist
