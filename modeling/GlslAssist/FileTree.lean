import GlslAssist.Files

/-!
# Trees of files

A file system held in memory. Paths are followed piece by piece as a system does it: a point stays,
two points go back, and whatever is followed further has to be a directory, so a slash after the
name of a file leads nowhere.
-/

namespace GlslAssist

inductive FileTree where
  | file (content : List UInt8)
  | directory (entries : List (Path × FileTree))

namespace FileTree

def empty : FileTree := directory []

/-- The pieces of a path, the empty ones included. -/
def pieces (p : Path) : List Path :=
  p.splitOn Path.slash

/-- Changes the entry of a name, or makes one out of nothing. -/
def update (name : Path) (f : FileTree → FileTree) : List (Path × FileTree) → List (Path × FileTree)
  | [] => [(name, f empty)]
  | (other, tree) :: rest =>
    if other = name then (other, f tree) :: rest else (other, tree) :: update name f rest

/-- Puts a tree at the end of a way through directories, which are made where they are missing. An
empty directory takes no place that is taken already. -/
def putAt (node : FileTree) : List Path → FileTree → FileTree
  | [], tree =>
    match node with
    | directory [] => tree
    | _ => node
  | piece :: rest, tree =>
    match tree with
    | file content => file content
    | directory entries => directory (update piece (putAt node rest) entries)

/-- The way that leads on by one more piece; two points lead back. -/
def wayOn (way : List Path) (piece : Path) : List Path :=
  if piece = [] ∨ piece = [Path.dot] then way
  else if piece = [Path.dot, Path.dot] then way.dropLast
  else way ++ [piece]

/-- Puts a tree at a path. Directories that the path only passes through are made as well. -/
def put (node : FileTree) (p : Path) (tree : FileTree) : FileTree :=
  let (way, tree) := (pieces p).foldl
    (fun (way, tree) piece => (wayOn way piece, putAt empty way tree)) ([], tree)
  putAt node way tree

/-- The longest name, and the bytes that a path may not reach. -/
def nameLimit : Nat := 255
def pathLimit : Nat := 4096

/-- Follows pieces from a place, which is the trail of names and trees that leads to it, the last
one first. -/
def walk (root : FileTree) : List Path → List (Path × FileTree) →
    Except ReadProblem (List (Path × FileTree))
  | [], trail => .ok trail
  | piece :: rest, trail =>
    match (trail.head?.map Prod.snd).getD root with
    | file _ => .error .notDirectory
    | directory entries =>
      if piece = [] ∨ piece = [Path.dot] then walk root rest trail
      else if piece = [Path.dot, Path.dot] then walk root rest trail.tail
      else if nameLimit < piece.length then .error .nameTooLong
      else
        match entries.find? (·.1 == piece) with
        | none => .error .missing
        | some entry => walk root rest (entry :: trail)

/-- The trail to a path, taken from a directory. -/
def trail (root : FileTree) (directory p : Path) : Except ReadProblem (List (Path × FileTree)) :=
  if p = [] then .error .missing
  else if pathLimit ≤ p.length then .error .nameTooLong
  else walk root (pieces (directory.join p)) []

/-- The plain name of a directory, or its own if it is not there. -/
def canonical (root : FileTree) (directory : Path) : Path :=
  match walk root (pieces directory) [] with
  | .error _ => directory
  | .ok trail => (trail.map Prod.fst).foldl (fun below name => Path.slash :: name ++ below) []

def content (root : FileTree) (trail : List (Path × FileTree)) : Except ReadProblem (List UInt8) :=
  match (trail.head?.map Prod.snd).getD root with
  | file bytes => .ok bytes
  | directory _ => .error .isDirectory

/-- The tree as a file system, relative paths being taken from a directory. -/
def files (root : FileTree) (directory : Path) : Files where
  has p := (root.trail directory p).isOk
  read p := (root.trail directory p).bind root.content

end FileTree

end GlslAssist
