import GlslAssist.Pattern.Escape

/-!
# Sets in brackets

Between brackets stand characters, ranges, classes and other sets. Two sets may be joined by an
operator for what is in both, in the first alone, or in only one of them; operators are applied from
left to right.
-/

namespace GlslAssist.Pattern.Reading

/-- A set, and how deep sets stand inside each other in it. -/
structure SetPiece where
  set : CharSet
  depth : Nat

inductive SetOperator where
  | both
  | without
  | inOne

def SetOperator.apply : SetOperator → CharSet → CharSet → CharSet
  | both, a, b => .both a b
  | without, a, b => a.without b
  | inOne, a, b => a.inOne b

def unionOf : List SetPiece → SetPiece
  | [piece] => piece
  | [] => ⟨.none, 0⟩
  | pieces => ⟨.unions (pieces.map SetPiece.set), (pieces.map SetPiece.depth).foldl max 0 + 1⟩

/-- A set that has a name between colons, if one comes next. -/
def classByName? (s : List Char) : Option (CharSet × Bool × List Char) :=
  match s with
  | '[' :: ':' :: s =>
    let isNegated := s.head? = some '^'
    let s := if isNegated then s.tail else s
    match s.dropWhile (· ≠ ':') with
    | ':' :: ']' :: rest =>
      (CharSet.ofName? (String.ofList (s.takeWhile (· ≠ ':')))).map fun set =>
        (set, isNegated, rest)
    | _ => none
  | _ => none

/-- An end of a range, or a class. -/
def member : Reading Escaped := do
  let c ← need .unclosedSet
  if c = '\\' then escape
  else
    advance
    return .character c false

/-- The set of what a single member stands for. -/
def ofMember : Escaped → Reading CharSet
  | .character c isByte => do
    checkMember c isByte
    return .single c
  | .named set isNegated => namedSet set isNegated
  | .property problem => propertySet problem
  | .edge _ => throw .escapeInSet

/-- The character that bounds a range. -/
def boundOf : Escaped → Reading (Char × Bool)
  | .character c isByte => return (c, isByte)
  | _ => throw .noRangeCharacter

/-- A member, or a range of characters. -/
def rangeOrMember : Reading SetPiece := do
  let first ← member
  skip
  if (← need .unclosedSet) ≠ '-' then return ⟨← ofMember first, 0⟩
  let past ← lookPastIdle
  if past = some ']' ∨ past = some '-' then return ⟨← ofMember first, 0⟩
  advanceAndSkip
  let last ← member
  let (low, lowByte) ← boundOf first
  let (high, highByte) ← boundOf last
  if high < low then throw .reversedRange
  checkMember low lowByte
  checkMember high highByte
  return ⟨.range low high, 0⟩

/-- What an operator and the sets on its sides come to. -/
def combined (left : Option (SetOperator × SetPiece)) (right : SetPiece) : Reading SetPiece := do
  match left with
  | none => return right
  | some (operator, left) =>
    let f ← flags
    if f.anyCase ∧ f.foreign then complain .noCaseTable
    let sides (set : CharSet) : CharSet := if f.anyCase then .eitherCase set else set
    return ⟨operator.apply (sides left.set) (sides right.set), max left.depth right.depth + 1⟩

/-- The operator that comes next. -/
def operator? : Reading (Option SetOperator) := do
  if ← takes "&&" then return some .both
  if ← takes "--" then return some .without
  if ← takes "~~" then return some .inOne
  return none

/-- The hyphens that open a set. -/
def hyphens : Nat → Reading (List SetPiece)
  | 0 => return []
  | fuel + 1 => do
    if (← need .unclosedSet) = '-' then
      advanceAndSkip
      return ⟨.single '-', 0⟩ :: (← hyphens fuel)
    else return []

/-- The members that nothing else could be meant by, since a set is never empty. -/
def openingMembers : Reading (List SetPiece) := do
  let pieces ← hyphens (← get).rest.length
  if pieces.isEmpty ∧ (← need .unclosedSet) = ']' then
    advanceAndSkip
    let _ ← need .unclosedSet
    return [⟨.single ']', 0⟩]
  else return pieces

mutual

/-- A set from its opening bracket to its end. -/
def brackets : Nat → Reading SetPiece
  | 0 => throw .unclosedSet
  | fuel + 1 => do
    advanceAndSkip
    let isNegated := (← need .unclosedSet) = '^'
    if isNegated then
      advanceAndSkip
    let inner ← members fuel none (← openingMembers)
    return ⟨← finished isNegated inner.set, inner.depth + 1⟩

/-- The members of a set up to its end, after those that were read. -/
def members : Nat → Option (SetOperator × SetPiece) → List SetPiece → Reading SetPiece
  | 0, _, _ => throw .unclosedSet
  | fuel + 1, left, pieces => do
    skip
    let c ← need .unclosedSet
    if c = '[' then
      match classByName? (← get).rest with
      | some (set, isNegated, rest) =>
        leave rest
        members fuel left (pieces ++ [⟨← finished isNegated set, 0⟩])
      | none => members fuel left (pieces ++ [← brackets fuel])
    else if c = ']' then
      advance
      combined left (unionOf pieces)
    else
      match ← operator? with
      | some operator => members fuel (some (operator, ← combined left (unionOf pieces))) []
      | none => members fuel left (pieces ++ [← rangeOrMember])

end

end GlslAssist.Pattern.Reading
