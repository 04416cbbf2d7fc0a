import GlslAssist.Text.Offset

/-!
# Paths

A path is a string of bytes, cut into pieces by slashes. Empty pieces and single points say nothing,
except for a slash or a point at the very start, which is the head of the path. `parent?` drops the
last piece that says something, without a look at any file; so it is shorter (`parent?_length_lt`),
and going up from parent to parent comes to an end.
-/

namespace GlslAssist

abbrev Path := List UInt8

namespace Path

def slash : UInt8 := 0x2F
def dot : UInt8 := 0x2E

def ofText (s : String) : Path :=
  Text.bytes s.toList

/-- The path as it is shown; bytes that are no text are left out. -/
def text (p : Path) : String :=
  (String.fromUTF8? ⟨p.toArray⟩).getD ""

/-- The slash of a path from the root, or the point that begins a path from the current directory.
-/
def head : Path → Path
  | [] => []
  | c :: rest =>
    if c = slash then [slash]
    else if c = dot ∧ (rest = [] ∨ rest.head? = some slash) then [dot]
    else []

/-! ## Reading from the end

A path without its head is read from its last byte to its first.
-/

/-- The bytes without the slashes, and without the pieces that are single points, that lead them. -/
def dropIdle : List UInt8 → List UInt8
  | [] => []
  | c :: rest =>
    if c = slash then dropIdle rest
    else if c = dot ∧ (rest = [] ∨ rest.head? = some slash) then dropIdle rest
    else c :: rest

/-- The body of a path, last byte first, from the end of its last piece on. -/
def lastFirst (p : Path) : List UInt8 :=
  dropIdle (p.drop p.head.length).reverse

/-- The path without its last piece; nothing for the root and for the empty path. -/
def parent? (p : Path) : Option Path :=
  if lastFirst p = [] then if p.head = [dot] then some [] else none
  else some (p.head ++ (dropIdle ((lastFirst p).dropWhile (· ≠ slash))).reverse)

/-- A path taken from a directory. An absolute one stays what it is. -/
def join (directory p : Path) : Path :=
  if p.head? = some slash then p
  else if directory = [] ∨ directory.getLast? = some slash then directory ++ p
  else directory ++ slash :: p

/-- The last piece, unless it is two points. -/
def fileName? (p : Path) : Option Path :=
  let piece := ((lastFirst p).takeWhile (· ≠ slash)).reverse
  if piece = [] ∨ piece = [dot, dot] then none else some piece

/-- What follows the last point of the last piece, if something stands before that point. -/
def extension? (p : Path) : Option Path :=
  p.fileName?.bind fun name =>
    let ending := name.reverse.takeWhile (· ≠ dot)
    if name.length ≤ ending.length + 1 then none else some ending.reverse

theorem dropIdle_length_le (s : List UInt8) : (dropIdle s).length ≤ s.length := by
  fun_induction dropIdle s with
  | case1 => simp
  | case2 _ ih => exact Nat.le_succ_of_le ih
  | case3 _ _ _ _ ih => exact Nat.le_succ_of_le ih
  | case4 => simp

theorem head_length_le (p : Path) : p.head.length ≤ p.length := by
  cases p with
  | nil => simp [head]
  | cons c rest => grind [head]

/-- No piece begins with a slash. -/
theorem head?_dropIdle_ne (s : List UInt8) : (dropIdle s).head? ≠ some slash := by
  fun_induction dropIdle s with
  | case1 => simp
  | case2 _ ih => exact ih
  | case3 _ _ _ _ ih => exact ih
  | case4 _ _ h _ => simpa using h

theorem dropWhile_lastFirst_length_lt {p : Path} (h : lastFirst p ≠ []) :
    ((lastFirst p).dropWhile (· ≠ slash)).length < (lastFirst p).length := by
  have first := head?_dropIdle_ne (p.drop p.head.length).reverse
  rw [← lastFirst] at first
  cases hp : lastFirst p with
  | nil => exact absurd hp h
  | cons c rest =>
    have hc : c ≠ slash := by simpa [hp] using first
    have := (List.dropWhile_sublist (· ≠ slash) (l := rest)).length_le
    simpa [List.dropWhile_cons, hc] using Nat.lt_succ_of_le this

theorem parent?_length_lt {p q : Path} (h : p.parent? = some q) : q.length < p.length := by
  have whole := head_length_le p
  unfold parent? at h
  split at h
  · split at h
    · next hd => cases h; simpa [hd, Nat.succ_le_iff] using whole
    · cases h
  · next hb =>
    cases h
    have body := dropIdle_length_le (p.drop p.head.length).reverse
    rw [← lastFirst] at body
    have rest := dropIdle_length_le ((lastFirst p).dropWhile (· ≠ slash))
    have less := dropWhile_lastFirst_length_lt hb
    simp only [List.length_append, List.length_reverse, List.length_drop] at *
    omega

/-! ## Going up -/

/-- The path, its parent, the parent of that, and so on to the end. -/
def ancestors (p : Path) : List Path :=
  p :: match _ : p.parent? with
    | none => []
    | some up => ancestors up
termination_by p.length
decreasing_by exact parent?_length_lt ‹_›

end Path

end GlslAssist
