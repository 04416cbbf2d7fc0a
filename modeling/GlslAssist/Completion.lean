import GlslAssist.Document
import GlslAssist.Hover
import GlslAssist.Text.Search

/-!
# Completion

Every symbol is offered at every position; only the range to replace depends on the buffer, and
narrowing by what was typed is left to the editor. Candidates are ranked by kind, the host's
uniforms first, and within a kind by label. The sort key is the rank, an underscore and the label,
compared by code point, which is the order of the UTF-8 bytes; equal keys stay in the order of
declaration.
-/

namespace GlslAssist

/-- What a candidate inserts, in the order of ranking. -/
inductive CandidateKind where
  | uniform
  | snippet
  | function
  | type
  | builtin
  | keyword
  deriving DecidableEq, Repr

namespace CandidateKind

def rank : CandidateKind → Nat
  | uniform => 0
  | snippet => 1
  | function => 2
  | type => 3
  | builtin => 4
  | keyword => 5

def name : CandidateKind → String
  | uniform => "uniform"
  | snippet => "snippet"
  | function => "function"
  | type => "type"
  | builtin => "variable"
  | keyword => "keyword"

/-- The namespace that holds the candidates of a kind. -/
def space : CandidateKind → Namespace
  | uniform => .uniform
  | snippet => .snippet
  | function => .function
  | type => .type
  | builtin => .builtin
  | keyword => .keyword

end CandidateKind

/-- A text to put in place of a range. -/
structure TextEdit where
  range : Range
  newText : String
  deriving DecidableEq, Repr

structure Candidate where
  label : String
  kind : CandidateKind
  detail : String
  documentation : String
  insertText : String
  deriving DecidableEq, Repr

namespace Candidate

/-- Ascending order of sort keys is the order of display. -/
def sortText (c : Candidate) : String :=
  toString c.kind.rank ++ "_" ++ c.label

/-- The text to insert has tab stops. -/
def isSnippet (c : Candidate) : Bool :=
  c.kind = .snippet

def ofSymbol : Symbol → Candidate
  | .function f =>
    ⟨f.name, .function, (f.signatures.head?.map Signature.label).getD "", Hover.functionNote f,
      f.name⟩
  | .type t => ⟨t.name, .type, t.name, t.description, t.name⟩
  | .builtin v => ⟨v.name, .builtin, v.type, v.description, v.name⟩
  | .uniform u => ⟨u.name, .uniform, "uniform " ++ u.type, u.description, u.name⟩
  | .keyword k => ⟨k.name, .keyword, "keyword", k.description, k.name⟩
  | .snippet s => ⟨s.label, .snippet, s.description, s.description, s.insertText⟩

/-- What accepting the candidate does to the buffer. -/
def edit (range : Range) (c : Candidate) : TextEdit :=
  ⟨range, c.insertText⟩

/-- The candidates of a registry in the order of display. -/
def ranked (registry : Registry) : List Candidate :=
  (registry.symbols.map ofSymbol).mergeSort fun a b => decide (a.sortText ≤ b.sortText)

/-- The label contains what was typed, ASCII letters of either case taken as one. -/
def matchesTyped (typed : String) (c : Candidate) : Bool :=
  Text.occursIn (typed.toList.map Char.toLower) (c.label.toList.map Char.toLower)

end Candidate

/-- The answer to a completion request: the candidates, what was typed of the word so far, and the
range that an accepted candidate replaces. -/
structure Completion where
  items : List Candidate
  typed : String
  range : Range
  deriving DecidableEq, Repr

namespace Completion

/-- The completion at a position, from a list of candidates that is already ranked. -/
def ofCandidates (items : List Candidate) (doc : Document) (pos : Position) : Completion :=
  ⟨items, (doc.wordUntil pos).text, doc.completionRange pos⟩

def find (registry : Registry) (doc : Document) (pos : Position) : Completion :=
  ofCandidates (Candidate.ranked registry) doc pos

def narrowed (c : Completion) : List Candidate :=
  c.items.filter (Candidate.matchesTyped c.typed)

end Completion

end GlslAssist
